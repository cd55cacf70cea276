import FrameTree.Proofs.Growth
import FrameTree.Proofs.Links
import FrameTree.Proofs.Lossless
import Mathlib.Data.List.Forall2
import Mathlib.Logic.Equiv.Basic

/-!
# Ids are opaque

Rebuilding compares ids and finds entities by them, and that is all it does with them. Written
another way, so that different ids stay different and only the empty one is empty, they lead to the
same document or the same error.

**Codes** (`Recoding`). A way to write ids. The blocks of a frame have one, and each action has one
of its own for its triggers. All other ids and links may become anything (`Frame.Recoded`).

**Side by side** (`Tree.grow_of_related`). The links of a frame from elsewhere may form anything,
so there need not be a tree to recode. Instead, the blocks that are met in one frame are related to
those that are met in the other, step by step: a look-up of the new id gives the related entities in
the same order (`Rebuild.get_ofList_related`, `Rebuild.get_blockIndex_related`).

Main result: `Rebuild.document_of_recoded`.
-/

namespace FrameTree

variable {α β γ δ ε : Type}

/-! ## Related lists -/

/-- Growing from related seeds, if related seeds have the same label and related children. -/
theorem Tree.grow_of_related {R : β → γ → Prop} {label : β → Except ε α} {label' : γ → Except ε α}
    {children : β → List β} {children' : γ → List γ} {e : ε}
    (hlabel : ∀ b c, R b c → label b = label' c)
    (hchildren : ∀ b c, R b c → List.Forall₂ R (children b) (children' c)) (room : Nat) {b : β}
    {c : γ} (h : R b c) : grow label children e room b = grow label' children' e room c := by
  induction room generalizing b c with
  | zero => rfl
  | succ room ih =>
    have hbelow : (children b).mapM (grow label children e room) =
        (children' c).mapM (grow label' children' e room) :=
      mapM_eq_of_forall₂ (fun _ _ h => ih h) (hchildren b c h)
    rw [grow, grow, hlabel b c h, hbelow]

section

variable {R : α → β → Prop} {xs : List α} {ys : List β}

/-- Related lists are the two sides of a list of related pairs. -/
theorem exists_pairs_of_forall₂ (h : List.Forall₂ R xs ys) :
    ∃ zs : List (α × β), (∀ z ∈ zs, R z.1 z.2) ∧ zs.map Prod.fst = xs ∧ zs.map Prod.snd = ys := by
  induction h with
  | nil => exact ⟨[], by simp, rfl, rfl⟩
  | @cons x y _ _ hxy _ ih =>
    obtain ⟨zs, hzs, rfl, rfl⟩ := ih
    exact ⟨(x, y) :: zs, List.forall_mem_cons.2 ⟨hxy, hzs⟩, rfl, rfl⟩

/-- Sorting by keys that related entries share. -/
theorem forall₂_mergeSort {key : α → Nat} {key' : β → Nat} (h : List.Forall₂ R xs ys)
    (hkey : ∀ x y, R x y → key x = key' y) :
    List.Forall₂ R (xs.mergeSort fun a b => key a ≤ key b)
      (ys.mergeSort fun a b => key' a ≤ key' b) := by
  obtain ⟨zs, hzs, rfl, rfl⟩ := exists_pairs_of_forall₂ h
  let sorted := zs.mergeSort fun z w => decide (key z.1 ≤ key w.1)
  have hfst : (zs.map Prod.fst).mergeSort (fun a b => key a ≤ key b) = sorted.map Prod.fst :=
    (List.map_mergeSort (f := Prod.fst) (r := fun z w => decide (key z.1 ≤ key w.1))
      (s := fun a b => decide (key a ≤ key b)) fun _ _ _ _ => rfl).symm
  have hsnd : (zs.map Prod.snd).mergeSort (fun a b => key' a ≤ key' b) = sorted.map Prod.snd := by
    refine (List.map_mergeSort fun z hz w hw => ?_).symm
    rw [hkey _ _ (hzs z hz), hkey _ _ (hzs w hw)]
  rw [hfst, hsnd, List.forall₂_map_left_iff, List.forall₂_map_right_iff, List.forall₂_same]
  exact fun z hz => hzs z (List.mem_mergeSort.1 hz)

end

/-! ## Codes -/

/-- A way to write ids that keeps different ids different, and no id what it is. -/
structure Recoding (r : String → String) : Prop where
  injective : Function.Injective r
  empty : r "" = ""

namespace Recoding

variable {r : String → String} (h : Recoding r)

include h

theorem beq_eq (s t : String) : (r s == r t) = (s == t) := by
  rw [Bool.eq_iff_iff, beq_iff_eq, beq_iff_eq, h.injective.eq_iff]

theorem beq_empty (s : String) : (r s == "") = (s == "") := by
  rw [← h.beq_eq s "", h.empty]

end Recoding

namespace Frame

/-- What takes the place of an id that does not matter. -/
def noId : String → Unit := fun _ => ()

/-- The two blocks say the same, and the ids that rebuilding looks at are recoded. -/
structure Block.Recoded (r : String → String) (b b' : Block String) : Prop where
  content : b'.rename noId = b.rename noId
  id : b'.id = r b.id
  parentId : b'.parentId = r b.parentId

structure Trigger.Recoded (r : String → String) (t t' : Trigger String) : Prop where
  content : t'.rename noId = t.rename noId
  id : t'.id = r t.id
  parentId : t'.parentId = r t.parentId

/-- The two actions say the same, and the ids of their triggers are recoded. -/
structure Action.Recoded (a a' : Action String) : Prop where
  content : a'.rename noId = a.rename noId
  triggers : ∃ r, Recoding r ∧ List.Forall₂ (Trigger.Recoded r) a.triggers a'.triggers

/-- The two frames say the same in the same order. The ids of the blocks are recoded, and so are
those of the triggers of every action, each action by itself; other ids may be anything. -/
structure Recoded (F F' : Frame String) : Prop where
  content : F'.rename noId = F.rename noId
  blocks : ∃ r, Recoding r ∧ List.Forall₂ (Block.Recoded r) F.blocks F'.blocks
  actions : List.Forall₂ Action.Recoded F.actions F'.actions

/-! ### What a document shows -/

theorem Block.toDocument_rename (f : String → String) (b : Block String) (isRoot : Bool)
    (actions : List Document.Action) :
    (b.rename f).toDocument isRoot actions = b.toDocument isRoot actions := by
  simp only [toDocument, rename, List.map_map]
  rfl

theorem Trigger.toDocument_rename (f : String → String) (t : Trigger String) :
    (t.rename f).toDocument = t.toDocument := by
  simp only [toDocument, rename, List.map_map]
  rfl

theorem Block.rename_rename (f : String → Unit) (g : Unit → String) (b : Block String) :
    (b.rename f).rename g = b.rename fun s => g (f s) := by
  simp only [rename, List.map_map]
  rfl

theorem Trigger.rename_rename (f : String → Unit) (g : Unit → String) (t : Trigger String) :
    (t.rename f).rename g = t.rename fun s => g (f s) := by
  simp only [rename, List.map_map]
  rfl

namespace Block.Recoded

variable {r : String → String} {b b' : Block String} (h : Recoded r b b')

include h

/-- A document shows the same of both blocks. -/
theorem toDocument (isRoot : Bool) (actions : List Document.Action) :
    b'.toDocument isRoot actions = b.toDocument isRoot actions := by
  have hcontent := congrArg (Block.rename fun _ => "") h.content
  rw [rename_rename, rename_rename] at hcontent
  rw [← toDocument_rename (fun _ => "") b', ← toDocument_rename (fun _ => "") b, hcontent]

theorem key : b'.key = b.key := congrArg (fun b : Block Unit => b.key) h.content

theorem position : b'.position = b.position :=
  congrArg (fun b : Block Unit => b.position) h.content

end Block.Recoded

theorem Trigger.Recoded.toDocument {r : String → String} {t t' : Trigger String}
    (h : Recoded r t t') : t'.toDocument = t.toDocument := by
  have hcontent := congrArg (Trigger.rename fun _ => "") h.content
  rw [rename_rename, rename_rename] at hcontent
  rw [← toDocument_rename (fun _ => "") t', ← toDocument_rename (fun _ => "") t, hcontent]

namespace Action.Recoded

variable {a a' : Action String} (h : Recoded a a')

include h

theorem key : a'.key = a.key := congrArg (fun a : Action Unit => a.key) h.content

theorem event : a'.event = a.event := congrArg (fun a : Action Unit => a.event) h.content

end Action.Recoded

end Frame

/-! ## Rebuilding -/

namespace Rebuild

open FrameTree.Frame

/-- Looking up a recoded link gives the related entities. -/
theorem get_ofList_related {R : α → β → Prop} {link : α → String} {link' : β → String}
    {r : String → String} (hr : Recoding r) (hlink : ∀ x y, R x y → link' y = r (link x))
    {xs : List α} {ys : List β} (h : List.Forall₂ R xs ys) (target : String) :
    List.Forall₂ R ((LinkIndex.ofList link xs).get target)
      ((LinkIndex.ofList link' ys).get (r target)) := by
  rw [LinkIndex.get_ofList, LinkIndex.get_ofList]
  refine List.rel_filter (fun x y hxy => ?_) h
  show (link x == target) = true ↔ (link' y == r target) = true
  rw [hlink x y hxy, hr.beq_eq]

theorem get_blockIndex_related {F F' : Frame String} {r : String → String} (hr : Recoding r)
    (h : List.Forall₂ (Block.Recoded r) F.blocks F'.blocks) (target : String) :
    List.Forall₂ (Block.Recoded r) ((blockIndex F).get target)
      ((blockIndex F').get (r target)) := by
  rw [blockIndex, blockIndex, LinkIndex.get_sortedBy, LinkIndex.get_sortedBy]
  exact forall₂_mergeSort (get_ofList_related hr (fun _ _ hb => hb.parentId) h target)
    fun _ _ hb => hb.position.symm

/-- Roots are related to roots, since the empty link stays empty. -/
theorem roots_related {R : α → β → Prop} {index : LinkIndex α} {index' : LinkIndex β}
    {r : String → String} (hr : Recoding r)
    (h : ∀ target, List.Forall₂ R (index.get target) (index'.get (r target))) :
    List.Forall₂ R index.roots index'.roots := by
  have hroots := h ""
  rwa [hr.empty] at hroots

theorem action_recoded (limit : Nat) {a a' : Action String} (h : a.Recoded a') :
    action limit a = action limit a' := by
  obtain ⟨r, hr, htriggers⟩ := h.triggers
  let index := LinkIndex.ofList Trigger.parentId a.triggers
  let index' := LinkIndex.ofList Trigger.parentId a'.triggers
  have hget (target : String) :
      List.Forall₂ (Trigger.Recoded r) (index.get target) (index'.get (r target)) :=
    get_ofList_related hr (fun _ _ ht => ht.parentId) htriggers target
  have htrigger : ∀ t t', t.Recoded r t' → trigger limit index t = trigger limit index' t' := by
    intro t t' ht
    refine Tree.grow_of_related (R := Trigger.Recoded r) (fun t t' ht => ?_) (fun t t' ht => ?_)
      limit ht
    · rw [ht.toDocument]
    · rw [ht.id]
      exact hget t.id
  show (index.roots.mapM (trigger limit index) >>= fun ts =>
      .ok (⟨a.key, a.event, ts⟩ : Document.Action)) =
    (index'.roots.mapM (trigger limit index') >>= fun ts =>
      .ok (⟨a'.key, a'.event, ts⟩ : Document.Action))
  rw [mapM_eq_of_forall₂ htrigger (roots_related hr hget), h.key, h.event]

theorem label_recoded (limit : Nat) {r : String → String} (hr : Recoding r)
    {actions actions' : List (Action String)} (h : List.Forall₂ Action.Recoded actions actions')
    {b b' : Block String} (hb : b.Recoded r b') :
    label limit (.ofList Action.key actions) b = label limit (.ofList Action.key actions') b' := by
  have hid : Recoding (id : String → String) := ⟨Function.injective_id, rfl⟩
  have hactions : List.Forall₂ Action.Recoded ((LinkIndex.ofList Action.key actions).get b.key)
      ((LinkIndex.ofList Action.key actions').get b.key) :=
    get_ofList_related hid (fun _ _ ha => ha.key) h b.key
  have hsame := mapM_eq_of_forall₂ (fun _ _ ha => action_recoded limit ha) hactions
  unfold label
  rw [hb.key, hsame, hb.parentId, hr.beq_empty]
  simp only [hb.toDocument]

/-- **Ids are opaque.** Whatever the links of a frame form, a frame that says the same with other
ids is rebuilt to the same document, or refused with the same error: the ids of blocks may be
written in another way, and so may those of triggers, in every action in a way of its own, as long
as different ids stay different and the empty id stays empty. All other ids may become anything. -/
theorem document_of_recoded {F F' : Frame String} (h : F.Recoded F') (settings : Settings)
    (schema : String) : document settings F' schema = document settings F schema := by
  obtain ⟨r, hr, hblocks⟩ := h.blocks
  let grow (F : Frame String) :=
    block settings.maxDepth (blockIndex F) (LinkIndex.ofList Action.key F.actions)
  have hget := get_blockIndex_related hr hblocks
  have hgrow : ∀ b b', b.Recoded r b' → grow F b = grow F' b' := by
    intro b b' hb
    refine Tree.grow_of_related (R := Block.Recoded r) (fun b b' hb => ?_) (fun b b' hb => ?_)
      settings.maxDepth hb
    · exact label_recoded settings.maxDepth hr h.actions hb
    · rw [hb.id]
      exact hget b.id
  have hvars : F'.vars.map Variable.toDocument = F.vars.map Variable.toDocument := by
    have hcontent := congrArg (fun F => F.vars.map fun v => (v.rename fun _ => "").toDocument)
      h.content
    simp only [rename, List.map_map] at hcontent
    exact hcontent
  have hname : F'.name = F.name := congrArg (fun F : Frame Unit => F.name) h.content
  have hroute : F'.route = F.route := congrArg (fun F : Frame Unit => F.route) h.content
  have hkind : F'.kind = F.kind := congrArg (fun F : Frame Unit => F.kind) h.content
  have hstarter : F'.isStarter = F.isStarter :=
    congrArg (fun F : Frame Unit => F.isStarter) h.content
  show ((blockIndex F').roots.mapM (grow F') >>= fun bs => _) =
    ((blockIndex F).roots.mapM (grow F) >>= fun bs => _)
  rw [← mapM_eq_of_forall₂ hgrow (roots_related hr hget), hvars, hname, hroute, hkind, hstarter]

/-- `scattered` in another code: `a` and `b` take each other's place among the blocks, `s` and `t`
among the triggers, and the frame and the actions have other ids. -/
def recoded : Frame String :=
  { ofLists
      [box "a" "b" "inner", box "c" "gone" "orphan", box "b" "" "outer", box "d" "e" "ring",
        box "e" "d" "ring too"]
      [⟨"1", "2", "inner", "onClick",
          [log "s" "t" "second", log "u" "u" "loop", log "t" "" "first"]⟩,
        ⟨"3", "", "nobody", "onPress", []⟩] with
    id := "0" }

theorem document_of_recoded_scattered :
    scattered.Recoded recoded ∧
      document .standard recoded "frame.json" = document .standard scattered "frame.json" := by
  have hswap (s t : String) (h : Equiv.swap s t "" = "") : Recoding (Equiv.swap s t) :=
    ⟨Equiv.injective _, h⟩
  have h : scattered.Recoded recoded := by
    refine ⟨rfl, ⟨_, hswap "a" "b" (by decide), ?_⟩, ?_⟩
    · refine .cons ?_ (.cons ?_ (.cons ?_ (.cons ?_ (.cons ?_ .nil))))
      all_goals exact ⟨rfl, by decide, by decide⟩
    · refine .cons ⟨rfl, _, hswap "s" "t" (by decide), ?_⟩ (.cons ⟨rfl, id, ⟨?_, rfl⟩, .nil⟩ .nil)
      · refine .cons ?_ (.cons ?_ (.cons ?_ .nil))
        all_goals exact ⟨rfl, by decide, by decide⟩
      · exact Function.injective_id
  exact ⟨h, document_of_recoded h .standard "frame.json"⟩

end Rebuild

end FrameTree
