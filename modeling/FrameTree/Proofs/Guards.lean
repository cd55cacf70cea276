import FrameTree.Proofs.Overlong
import FrameTree.Proofs.Stable

/-!
# Both depth guards agree

Flattening checks the nesting of a document before it begins; rebuilding counts levels on its way
down the links of a frame. The limit of the one need not be the limit of the other.

**One frame, many limits.** A document that was rebuilt nests within the limit
(`Rebuild.within_of_document`), and a greater limit gives the same document
(`Rebuild.document_mono`). Both hold for every frame, whatever its links are.

**Flattened frames.** Within the limit by which it was flattened, a frame gives back the normal form
of its document, which nests as deep as the document does. So any limit within which the frame can
be rebuilt at all is one within which the document nests (`Rebuild.exists_document_iff`).

Main result: `Rebuild.document_guard`.
-/

namespace FrameTree

variable {α β ε ε' : Type}

/-! ## Growing within other limits -/

theorem mapM_eq_ok_of_imp {f : α → Except ε β} {g : α → Except ε' β}
    (hfg : ∀ x y, f x = .ok y → g x = .ok y) {xs : List α} {ys : List β} (h : xs.mapM f = .ok ys) :
    xs.mapM g = .ok ys := by
  induction xs generalizing ys with
  | nil =>
    cases h
    rfl
  | cons x xs ih =>
    obtain ⟨y, zs, hy, hzs, rfl⟩ := mapM_cons_eq_ok_iff.1 h
    exact mapM_cons_eq_ok_iff.2 ⟨y, zs, hfg x y hy, ih hzs, rfl⟩

namespace Tree

variable {label : β → Except ε α} {children : β → List β} {e : ε}

/-- More levels, and labels for more seeds, do not change what was grown. -/
theorem grow_mono {label' : β → Except ε' α} {e' : ε'}
    (hlabel : ∀ b a, label b = .ok a → label' b = .ok a) {room room' : Nat} (hroom : room ≤ room')
    {b : β} {t : Tree α} (h : grow label children e room b = .ok t) :
    grow label' children e' room' b = .ok t := by
  induction room generalizing room' b t with
  | zero => cases h
  | succ room ih =>
    obtain ⟨room', rfl⟩ := Nat.exists_eq_add_of_lt hroom
    obtain ⟨a, ts, ha, hts, rfl⟩ := grow_succ_eq_ok_iff.1 h
    exact grow_succ_eq_ok_iff.2
      ⟨a, ts, hlabel b a ha, mapM_eq_ok_of_imp (fun c u => ih (by omega)) hts, rfl⟩

/-- What was grown has no more levels than there were, and its labels are those of seeds. -/
theorem of_grow {P : α → Prop} (hlabel : ∀ b a, label b = .ok a → P a) {room : Nat} {b : β}
    {t : Tree α} (h : grow label children e room b = .ok t) :
    t.depth ≤ room ∧ ∀ a ∈ t.labels, P a := by
  induction room generalizing b t with
  | zero => cases h
  | succ room ih =>
    obtain ⟨a, ts, ha, hts, rfl⟩ := grow_succ_eq_ok_iff.1 h
    have hbelow := forall_mem_of_mapM hts fun c u => ih
    have hdepth : Forest.depth ts ≤ room := Forest.depth_le_iff.2 fun t ht => (hbelow t ht).1
    refine ⟨?_, fun a' ha' => ?_⟩
    · rw [depth_node]
      omega
    · rw [labels_node, List.mem_cons, Forest.mem_labels] at ha'
      rcases ha' with rfl | ⟨t, ht, ha'⟩
      · exact hlabel b _ ha
      · exact (hbelow t ht).2 a' ha'

end Tree

theorem Forest.of_grow {label : β → Except ε α} {children : β → List β} {e : ε} {P : α → Prop}
    (hlabel : ∀ b a, label b = .ok a → P a) {room : Nat} {bs : List β} {ts : Forest α}
    (h : bs.mapM (Tree.grow label children e room) = .ok ts) :
    depth ts ≤ room ∧ ∀ a ∈ labels ts, P a := by
  have hts := forall_mem_of_mapM h fun b t => Tree.of_grow hlabel
  refine ⟨depth_le_iff.2 fun t ht => (hts t ht).1, fun a ha => ?_⟩
  obtain ⟨t, ht, ha⟩ := mem_labels.1 ha
  exact (hts t ht).2 a ha

namespace Rebuild

open FrameTree.Frame

/-! ## One frame, many limits -/

section

variable {limit limit' : Nat} {F : Frame String} {schema : String}

theorem action_mono (hle : limit ≤ limit') (a : Action String) (a' : Document.Action)
    (h : action limit a = .ok a') : action limit' a = .ok a' := by
  obtain ⟨ts, hts, rfl⟩ := action_eq_ok_iff.1 h
  exact action_eq_ok_iff.2
    ⟨ts, mapM_eq_ok_of_imp (fun t u => Tree.grow_mono (fun _ _ => id) hle) hts, rfl⟩

theorem label_mono (hle : limit ≤ limit') {actions : LinkIndex (Action String)} (b : Block String)
    (b' : Document.Block) (h : label limit actions b = .ok b') :
    label limit' actions b = .ok b' := by
  obtain ⟨as, has, rfl⟩ := label_eq_ok_iff.1 h
  exact label_eq_ok_iff.2 ⟨as, mapM_eq_ok_of_imp (action_mono hle) has, rfl⟩

/-- **Greater limits.** What can be rebuilt within a limit is the same within every greater one. -/
theorem document_mono {settings settings' : Settings} {d : Document}
    (hle : settings.maxDepth ≤ settings'.maxDepth) (h : document settings F schema = .ok d) :
    document settings' F schema = .ok d := by
  obtain ⟨bs, hbs, rfl⟩ := document_eq_ok_iff.1 h
  exact document_eq_ok_iff.2
    ⟨bs, mapM_eq_ok_of_imp (fun b t => Tree.grow_mono (label_mono hle) hle) hbs, rfl⟩

theorem document_schema {settings : Settings} {d : Document}
    (h : document settings F schema = .ok d) (schema' : String) :
    document settings F schema' = .ok { d with schema := schema' } := by
  obtain ⟨bs, hbs, rfl⟩ := document_eq_ok_iff.1 h
  exact document_eq_ok_iff.2 ⟨bs, hbs, rfl⟩

theorem depth_of_label {actions : LinkIndex (Action String)} (b : Block String)
    (b' : Document.Block) (h : label limit actions b = .ok b') :
    ∀ a ∈ b'.actions, Forest.depth a.triggers ≤ limit := by
  obtain ⟨as, has, rfl⟩ := label_eq_ok_iff.1 h
  refine forall_mem_of_mapM has fun a a' ha => ?_
  obtain ⟨ts, hts, rfl⟩ := action_eq_ok_iff.1 ha
  exact (Forest.of_grow (fun _ _ _ => trivial) hts).1

/-- **What was rebuilt nests within the limit**, so it passes the check before flattening. -/
theorem within_of_document {settings : Settings} {d : Document}
    (h : document settings F schema = .ok d) : Nesting.Within settings.maxDepth d.blocks := by
  obtain ⟨bs, hbs, rfl⟩ := document_eq_ok_iff.1 h
  exact Forest.of_grow depth_of_label hbs

end

/-! ## Flattened frames -/

section

variable {f : Flattener String} {d : Document} {ledger ledger' : Ledger} {F : Frame String}
  (h : f.flatten d ledger = .ok (.flattened F) ledger')
  (hI : f.issuer.Fresh ledger.issued ledger'.issued)

include h hI

/-- Whatever the limit is, a frame gives back the normal form of its document, if it gives back
anything. -/
theorem eq_normal_of_document {settings : Settings} {schema : String} {d' : Document}
    (hd : document settings F schema = .ok d') :
    d' = { d.normal f.settings.defaultSlot with schema } := by
  let settings' := { settings with maxDepth := max settings.maxDepth f.settings.maxDepth }
  have hd' : document settings' F schema = .ok d' := document_mono (Nat.le_max_left _ _) hd
  have hnormal : document settings' F d.schema = .ok (d.normal f.settings.defaultSlot) :=
    document_mono (Nat.le_max_right _ _) (document_of_flattened h hI)
  exact Except.ok.inj (hd'.symm.trans (document_schema hnormal schema))

theorem document_of_within {settings : Settings} (schema : String)
    (hwithin : Nesting.Within settings.maxDepth d.blocks) :
    document settings F schema = .ok { d.normal f.settings.defaultSlot with schema } := by
  obtain ⟨hfaults, rfl, hissued⟩ := Flattener.eq_of_flattened h
  have hkeys := Flattener.nodup_keys_of_no_faults hfaults
  rw [hissued] at hI
  -- The frame does not depend on the limit, and rebuilding depends on nothing else.
  let settings' := { f.settings with maxDepth := settings.maxDepth }
  have hplaced : document settings' (d.placed f.issuer settings' ledger.issued) d.schema =
      .ok (d.normal settings'.defaultSlot) := document_placed hI hkeys hwithin
  exact document_schema hplaced schema

/-- A frame can be rebuilt within just those limits within which its document nests. -/
theorem exists_document_iff (settings : Settings) (schema : String) :
    (∃ d', document settings F schema = .ok d') ↔ Nesting.Within settings.maxDepth d.blocks := by
  constructor
  · rintro ⟨d', hd⟩
    have hwithin := within_of_document hd
    rw [eq_normal_of_document h hI hd] at hwithin
    exact (Document.within_normal_iff f.settings.defaultSlot).1 hwithin
  · exact fun hwithin => ⟨_, document_of_within h hI schema hwithin⟩

/-- **Both depth guards agree** at every limit: rebuilding the frame of a document fails just if the
document does not nest within the limit, and with the same error. Within all other limits the frame
gives back one and the same document. -/
theorem document_guard :
    ∀ (settings : Settings) (schema : String),
      (document settings F schema = .error (.depthExceeded settings.maxDepth) ↔
        Nesting.check settings.maxDepth d.blocks = .error (.depthExceeded settings.maxDepth)) ∧
      ∀ d', document settings F schema = .ok d' ↔
        Nesting.check settings.maxDepth d.blocks = .ok () ∧
          d' = { d.normal f.settings.defaultSlot with schema } := by
  intro settings schema
  have hfails := document_failsIff settings F schema
  have hexists := exists_document_iff h hI settings schema
  rw [hfails.exists_ok_iff] at hexists
  rw [hfails.eq_error_iff, and_iff_right rfl, Nesting.check_eq_error_iff, Nesting.check_eq_ok_iff,
    ← hexists, not_not]
  refine ⟨Iff.rfl, fun d' => ⟨fun hd => ?_, ?_⟩⟩
  · exact ⟨hfails.exists_ok_iff.1 ⟨d', hd⟩, eq_normal_of_document h hI hd⟩
  · rintro ⟨hshallow, rfl⟩
    exact document_of_within h hI schema (hexists.1 hshallow)

end

theorem document_guard_profile :
    Flattener.standard.flatten .profile .empty =
        .ok (.flattened (Document.placed (.sequential "id") .standard 0 .profile))
          { Flattener.standard.asked .profile .empty with issued := 13 } ∧
      (Issuer.sequential "id").Fresh 0 13 ∧
      let F := Document.placed (.sequential "id") .standard 0 .profile
      document { Settings.standard with maxDepth := 1 } F "" = .error (.depthExceeded 1) ∧
        document { Settings.standard with maxDepth := 2 } F "" =
          .ok { Document.normal "content" .profile with schema := "" } := by
  have hflatten := Flattener.flatten_of_no_faults .empty Flattener.faults_profile
  have hfresh := Issuer.fresh_sequential "id" 0 13
  have hguard := document_guard hflatten hfresh
  refine ⟨hflatten, hfresh, ?_, ?_⟩
  · refine (hguard { Settings.standard with maxDepth := 1 } "").1.2 ?_
    rw [Nesting.check_eq_error_iff]
    decide
  · refine ((hguard { Settings.standard with maxDepth := 2 } "").2 _).2 ⟨?_, rfl⟩
    rw [Nesting.check_eq_ok_iff]
    decide

end Rebuild

end FrameTree
