import FrameTree.Proofs.Growth
import FrameTree.Proofs.Links

/-!
# Rebuilding fails just on overlong chains

The links of a frame from elsewhere may be anything: ids may repeat or be empty, links may lead
nowhere or in circles. A chain of entities starts with one that points at nothing and goes on with
one that points at the one before it; entities may repeat along it. Rebuilding follows the chains of
blocks, and for every block on one the chains of triggers in its actions. It fails just if one of
these has more members than the limit allows, and has no other error.

Main result: `Rebuild.document_total`.
-/

namespace FrameTree

variable {β : Type}

/-- A chain of entities: the first one points at nothing, and each next one at the one before it. -/
structure RootChain (id link : β → String) (entities chain : List β) : Prop where
  subset : ∀ b ∈ chain, b ∈ entities
  root : ∀ b ∈ chain.head?, link b = ""
  linked : chain.IsChain fun a b => link b = id a

/-- Some chain has more members than the limit allows. -/
def Overlong (id link : β → String) (entities : List β) (limit : Nat) : Prop :=
  ∃ chain, RootChain id link entities chain ∧ chain.length = limit + 1

namespace RootChain

variable {id link : β → String} {entities : List β}

theorem take {chain : List β} (h : RootChain id link entities chain) (n : Nat) :
    RootChain id link entities (chain.take n) where
  subset b hb := h.subset b (List.mem_of_mem_take hb)
  root b hb := by
    cases n with
    | zero => cases hb
    | succ n => exact h.root b (by rwa [List.head?_take, if_neg (Nat.succ_ne_zero n)] at hb)
  linked := h.linked.take n

theorem isChain_mem_iff {b : β} {path : List β} :
    List.IsChain (fun a c => c ∈ entities ∧ link c = id a) (b :: path) ↔
      (∀ c ∈ path, c ∈ entities) ∧ List.IsChain (fun a c => link c = id a) (b :: path) := by
  induction path generalizing b with
  | nil => simp
  | cons c path ih =>
    rw [List.isChain_cons_cons, List.isChain_cons_cons, ih, List.forall_mem_cons]
    constructor
    · rintro ⟨⟨hc, hbc⟩, hpath, hlinked⟩
      exact ⟨⟨hc, hpath⟩, hbc, hlinked⟩
    · rintro ⟨⟨hc, hpath⟩, hbc, hlinked⟩
      exact ⟨⟨hc, hbc⟩, hpath, hlinked⟩

/-- Following an index from one of its roots is the same as following the links. -/
theorem cons_iff {index : LinkIndex β}
    (hindex : ∀ target b, b ∈ index.get target ↔ b ∈ entities ∧ link b = target) {b : β}
    {path : List β} :
    RootChain id link entities (b :: path) ↔
      b ∈ index.roots ∧ List.IsChain (fun a c => c ∈ index.get (id a)) (b :: path) := by
  simp only [LinkIndex.roots, hindex, isChain_mem_iff]
  constructor
  · intro h
    exact ⟨⟨h.subset b List.mem_cons_self, h.root b rfl⟩,
      fun c hc => h.subset c (List.mem_cons_of_mem b hc), h.linked⟩
  · rintro ⟨⟨hb, hroot⟩, hpath, hlinked⟩
    refine ⟨List.forall_mem_cons.2 ⟨hb, hpath⟩, fun c hc => ?_, hlinked⟩
    cases hc
    exact hroot

/-- A path from a root that is too long or ends badly is an overlong chain, or a chain that ends
badly. -/
theorem exists_path_iff (id : β → String) {index : LinkIndex β}
    (hindex : ∀ target b, b ∈ index.get target ↔ b ∈ entities ∧ link b = target) (limit : Nat)
    (bad : β → Prop) :
    (∃ b ∈ index.roots, ∃ path, List.IsChain (fun a c => c ∈ index.get (id a)) (b :: path) ∧
        (limit ≤ path.length ∨ bad ((b :: path).getLast (List.cons_ne_nil b path)))) ↔
      Overlong id link entities limit ∨
        ∃ chain b, RootChain id link entities chain ∧ chain.getLast? = some b ∧ bad b := by
  constructor
  · rintro ⟨b, hb, path, hpath, hlong | hbad⟩
    · refine .inl ⟨(b :: path).take (limit + 1), .take ((cons_iff hindex).2 ⟨hb, hpath⟩) _, ?_⟩
      rw [List.length_take, List.length_cons]
      omega
    · exact .inr ⟨b :: path, _, (cons_iff hindex).2 ⟨hb, hpath⟩, List.getLast?_eq_some_getLast _,
        hbad⟩
  · rintro (⟨chain, hchain, hlength⟩ | ⟨chain, c, hchain, hlast, hbad⟩)
    · obtain ⟨b, path, rfl⟩ := List.exists_cons_of_length_eq_add_one hlength
      obtain ⟨hb, hpath⟩ := (cons_iff hindex).1 hchain
      exact ⟨b, hb, path, hpath, .inl (Nat.le_of_eq (Nat.succ.inj hlength.symm))⟩
    · cases chain with
      | nil => cases hlast
      | cons b path =>
        obtain ⟨hb, hpath⟩ := (cons_iff hindex).1 hchain
        refine ⟨b, hb, path, hpath, .inr ?_⟩
        rw [List.getLast?_eq_some_getLast (List.cons_ne_nil b path)] at hlast
        cases hlast
        exact hbad

end RootChain

namespace Rebuild

open FrameTree.Frame

/-- The blocks of a frame form an overlong chain, or the triggers of an action do, whose key is that
of a block at the end of a chain. -/
def TooDeep (F : Frame String) (limit : Nat) : Prop :=
  Overlong Block.id Block.parentId F.blocks limit ∨
    ∃ chain b, RootChain Block.id Block.parentId F.blocks chain ∧ chain.getLast? = some b ∧
      ∃ a ∈ F.actions, a.key = b.key ∧ Overlong Trigger.id Trigger.parentId a.triggers limit

theorem action_failsIff (limit : Nat) (a : Action String) :
    FailsIff (.depthExceeded limit) (Overlong Trigger.id Trigger.parentId a.triggers limit)
      (action limit a) := by
  let index := LinkIndex.ofList Trigger.parentId a.triggers
  have hindex (target : String) (t : Trigger String) :
      t ∈ index.get target ↔ t ∈ a.triggers ∧ t.parentId = target := LinkIndex.mem_get_ofList
  have hlabel (t : Trigger String) : FailsIff (Error.depthExceeded limit) False
      (.ok t.toDocument) := .ok _
  have hgrow := FailsIff.mapM (Tree.grow_failsIff (fun t => index.get t.id) hlabel limit)
    index.roots
  have hchains := RootChain.exists_path_iff Trigger.id hindex limit fun _ => False
  refine (hgrow.map _).of_iff (hchains.trans ?_)
  simp

theorem label_failsIff (limit : Nat) (actions : List (Action String)) (b : Block String) :
    FailsIff (.depthExceeded limit)
      (∃ a ∈ actions, a.key = b.key ∧ Overlong Trigger.id Trigger.parentId a.triggers limit)
      (label limit (LinkIndex.ofList Action.key actions) b) := by
  have hactions := FailsIff.mapM (action_failsIff limit)
    ((LinkIndex.ofList Action.key actions).get b.key)
  refine (hactions.map _).of_iff ?_
  simp only [LinkIndex.mem_get_ofList, and_assoc]

theorem document_failsIff (settings : Settings) (F : Frame String) (schema : String) :
    FailsIff (.depthExceeded settings.maxDepth) (TooDeep F settings.maxDepth)
      (document settings F schema) := by
  have hgrow := FailsIff.mapM (Tree.grow_failsIff (fun b => (blockIndex F).get b.id)
    (label_failsIff settings.maxDepth F.actions) settings.maxDepth) (blockIndex F).roots
  have hindex (target : String) (b : Block String) :
      b ∈ (blockIndex F).get target ↔ b ∈ F.blocks ∧ b.parentId = target := mem_get_blockIndex
  exact (hgrow.map _).of_iff (RootChain.exists_path_iff Block.id hindex settings.maxDepth fun b =>
    ∃ a ∈ F.actions, a.key = b.key ∧
      Overlong Trigger.id Trigger.parentId a.triggers settings.maxDepth)

/-! ### Results -/

section

variable {limit : Nat} {F : Frame String} {schema : String}

theorem action_eq_ok_iff {a : Action String} {a' : Document.Action} :
    action limit a = .ok a' ↔ ∃ ts,
      (LinkIndex.ofList Trigger.parentId a.triggers).roots.mapM
          (trigger limit (LinkIndex.ofList Trigger.parentId a.triggers)) = .ok ts ∧
        a' = { key := a.key, event := a.event, triggers := ts } :=
  bind_pure_eq_ok_iff

theorem label_eq_ok_iff {actions : LinkIndex (Action String)} {b : Block String}
    {b' : Document.Block} :
    label limit actions b = .ok b' ↔ ∃ as, (actions.get b.key).mapM (action limit) = .ok as ∧
      b' = b.toDocument (b.parentId == "") as :=
  bind_pure_eq_ok_iff

/-- But for its trees, a document that was rebuilt does not depend on the limit. -/
theorem document_eq_ok_iff {settings : Settings} {d : Document} :
    document settings F schema = .ok d ↔ ∃ bs,
      (blockIndex F).roots.mapM (block settings.maxDepth (blockIndex F)
          (LinkIndex.ofList Action.key F.actions)) = .ok bs ∧
        d = { schema, name := F.name, route := F.route, kind := F.kind, isStarter := F.isStarter,
              vars := F.vars.map Variable.toDocument, blocks := bs } :=
  bind_pure_eq_ok_iff

end

/-- **Rebuilding is total**, and fails just on overlong chains: with the one error of the nesting
limit, and otherwise it gives a document. -/
theorem document_total (settings : Settings) (F : Frame String) (schema : String) :
    (∀ e, document settings F schema = .error e ↔
        e = .depthExceeded settings.maxDepth ∧ TooDeep F settings.maxDepth) ∧
      ((∃ d, document settings F schema = .ok d) ↔ ¬TooDeep F settings.maxDepth) :=
  have h := document_failsIff settings F schema
  ⟨h.eq_error_iff, h.exists_ok_iff⟩

end Rebuild

end FrameTree
