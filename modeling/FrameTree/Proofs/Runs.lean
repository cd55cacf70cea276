import FrameTree.Proofs.Flattening
import FrameTree.Proofs.Fresh
import Mathlib.Data.List.Flatten
import Mathlib.Data.List.Nodup
import Mathlib.Data.List.Perm.Basic

/-!
# Ids over a whole run

A flattener is called again and again, on documents and on texts. Some calls give a frame, some are
rejected, and some end with an error after a part of the ids were issued. No id is ever used twice.

**One frame** (`Document.ids_placed`). The ids of all entities of a frame are the next ones in the
sequence, each of them once, although the frame does not list its entities in the order in which
they were named.

**Runs** (`Flattener.run_supplied`). Every call goes on where the one before it stopped counting, so
the ids of all frames of a run belong to different numbers (`Supplied`).

**Sequential ids.** Different numbers give different texts, and so do different stems, since the
number is what follows the last hyphen (`Issuer.sequential_injective`).

Main result: `Flattener.run_ids`.
-/

namespace FrameTree

variable {ι α β : Type}

/-! ## The ids of a frame -/

namespace Frame

def Trigger.ids (t : Trigger ι) : List ι :=
  t.id :: (t.properties.map TriggerProperty.id ++ t.data.map TriggerData.id)

def Action.ids (a : Action ι) : List ι := a.id :: a.triggers.flatMap Trigger.ids

def Block.ids (b : Block ι) : List ι :=
  b.id :: (b.properties.map Property.id ++ (b.data.map BlockData.id ++ b.slots.map Slot.id))

/-- The ids of a frame and of everything in it. -/
def ids (F : Frame ι) : List ι :=
  F.id :: (F.vars.map Variable.id ++ (F.blocks.flatMap Block.ids ++ F.actions.flatMap Action.ids))

end Frame

/-! ## Stretches of the sequence -/

namespace Issuer

/-- The `k` ids that are issued after `n` others. -/
def stretch (I : Issuer ι) (n k : Nat) : List ι := (List.range' n k).map I.id

variable (I : Issuer ι)

theorem stretch_append (n k l : Nat) :
    I.stretch n (k + l) = I.stretch n k ++ I.stretch (n + k) l := by
  rw [stretch, ← List.range'_append_1, List.map_append]
  rfl

theorem stretch_cons (n k : Nat) : I.stretch n (1 + k) = I.id n :: I.stretch (n + 1) k :=
  I.stretch_append n 1 k

theorem ids_parts {flat : ι → α → β} {id : β → ι} (h : ∀ i x, id (flat i x) = i) (n : Nat)
    (xs : List α) : (I.parts flat n xs).map id = I.stretch n xs.length := by
  induction xs generalizing n with
  | nil => rfl
  | cons x xs ih =>
    rw [List.length_cons, Nat.add_comm, stretch_cons, ← ih, ← h (I.id n) x]
    rfl

variable {I} {ids : β → List ι}

theorem ids_consecutive {cost : α → Nat} {make : Nat → α → β}
    (h : ∀ m x, ids (make m x) = I.stretch m (cost x)) (n : Nat) (xs : List α) :
    (consecutive cost make n xs).flatMap ids = I.stretch n (xs.map cost).sum := by
  induction xs generalizing n with
  | nil => rfl
  | cons x xs ih =>
    rw [consecutive, List.flatMap_cons, h, ih, List.map_cons, List.sum_cons, stretch_append]

theorem ids_numbered {cost : α → Nat} {ids : Spot α → List ι} (p : Option Nat) (k n : Nat)
    (h : ∀ s, ids s = I.stretch s.index (cost s.label)) (ts : Forest α) :
    (Forest.labels (Forest.numbered cost p k n ts)).flatMap ids =
      I.stretch n (Forest.weight cost ts) := by
  induction ts using Forest.induction generalizing p k n with
  | nil => rfl
  | cons a ts rest ih ih' =>
    rw [Forest.numbered_cons, Forest.labels_cons, List.flatMap_cons, List.flatMap_append, h, ih,
      ih', Forest.weight_cons, Nat.add_assoc, stretch_append, stretch_append, Nat.add_assoc]

end Issuer

/-! ## The ids of a flattened document -/

namespace Document

variable (I : Issuer ι)

theorem Trigger.ids_placed (actionId : ι) (s : Spot Trigger) :
    (Trigger.placed I actionId s).ids = I.stretch s.index s.label.idCount := by
  rw [Trigger.idCount, I.stretch_cons, I.stretch_append]
  exact congrArg (I.id s.index :: ·) (congrArg₂ (· ++ ·) (I.ids_parts (fun _ _ => rfl) _ _)
    (I.ids_parts (fun _ _ => rfl) _ _))

theorem Action.ids_placed (frameId : ι) (key : String) (n : Nat) (a : Action) :
    (a.placed I frameId key n).ids = I.stretch n a.idCount := by
  rw [Action.idCount, I.stretch_cons]
  show I.id n :: ((Forest.labels (a.spots (n + 1))).map _).flatMap Frame.Trigger.ids = _
  rw [List.flatMap_map]
  exact congrArg _ (Issuer.ids_numbered none 0 (n + 1) (Trigger.ids_placed I (I.id n)) a.triggers)

/-- The ids of a block and of its actions. -/
theorem Block.ids_placed (settings : Settings) (frameId : ι) (s : Spot Block) :
    ((Block.placed I settings frameId s).ids ++
      (Block.placedActions I frameId s).flatMap Frame.Action.ids).Perm
      (I.stretch s.index s.label.idCount) := by
  have hactions : (Block.placedActions I frameId s).flatMap Frame.Action.ids =
      I.stretch (s.index + 1) (s.label.actions.map Action.idCount).sum :=
    Issuer.ids_consecutive (Action.ids_placed I frameId s.label.key) _ _
  let parts := I.stretch (s.index + 1 + (s.label.actions.map Action.idCount).sum)
    (s.label.properties.length + (s.label.data.length + s.label.slots.length))
  have hparts : (Block.placed I settings frameId s).ids = I.id s.index :: parts := by
    show _ = I.id s.index :: I.stretch _ _
    rw [I.stretch_append, I.stretch_append]
    exact congrArg (I.id s.index :: ·) (congrArg₂ (· ++ ·) (I.ids_parts (fun _ _ => rfl) _ _)
      (congrArg₂ (· ++ ·) (I.ids_parts (fun _ _ => rfl) _ _) (I.ids_parts (fun _ _ => rfl) _ _)))
  rw [hparts, hactions, Block.idCount, I.stretch_cons, I.stretch_append _ (List.sum _)]
  exact List.perm_append_comm.cons _

/-- **The ids of a frame** are the next ones in the sequence, each of them once. -/
theorem ids_placed (settings : Settings) (n : Nat) (d : Document) :
    (d.placed I settings n).ids.Perm (I.stretch n d.idCount) := by
  have hvars : (d.placed I settings n).vars.map Frame.Variable.id =
      I.stretch (n + 1) d.vars.length := I.ids_parts (fun _ _ => rfl) _ _
  have hblocks : ((d.placed I settings n).blocks.flatMap Frame.Block.ids ++
      (d.placed I settings n).actions.flatMap Frame.Action.ids).Perm
      (I.stretch (n + 1 + d.vars.length) (Forest.weight Block.idCount d.blocks)) := by
    rw [← Issuer.ids_numbered none 0 _ (fun _ => rfl) d.blocks]
    show (((Forest.labels (d.spots n)).map _).flatMap Frame.Block.ids ++
      ((Forest.labels (d.spots n)).flatMap _).flatMap Frame.Action.ids).Perm _
    rw [List.flatMap_map, List.flatMap_assoc]
    refine (List.flatMap_append_perm _ _ _).trans ?_
    exact List.Perm.flatMap_left _ fun s _ => Block.ids_placed I settings (I.id n) s
  rw [idCount, I.stretch_cons, I.stretch_append, ← hvars]
  exact (hblocks.append_left _).cons _

end Document

/-! ## Runs -/

/-- The state in which a part of a program ends, with a result or an error. -/
def finalState {ε σ : Type} : EStateM.Result ε σ α → σ
  | .ok _ s => s
  | .error _ s => s

/-- Ids are used up also where a rule is broken. -/
theorem le_play (a : α) (es : List Event) (n : Nat) : n ≤ finalState (play a es n) := by
  induction es generalizing n with
  | nil => exact Nat.le_refl n
  | cons e es ih =>
    cases e with
    | issued => exact Nat.le_of_succ_le (ih (n + 1))
    | broken e => exact Nat.le_refl n

/-- The ids belong to different numbers, from one number up to another. -/
structure Supplied (I : Issuer ι) (first last : Nat) (ids : List ι) : Prop where
  le : first ≤ last
  numbers : ∃ ns : List Nat, ids.Perm (ns.map I.id) ∧ ns.Nodup ∧ ∀ n ∈ ns, first ≤ n ∧ n < last

namespace Supplied

variable {I : Issuer ι} {first middle last : Nat} {ids ids' : List ι}

theorem nil (h : first ≤ last) : Supplied I first last [] := ⟨h, [], .nil, .nil, by simp⟩

theorem of_stretch {n k : Nat} (h : ids.Perm (I.stretch n k)) : Supplied I n (n + k) ids := by
  refine ⟨Nat.le_add_right n k, _, h, List.nodup_range', fun m hm => ?_⟩
  exact List.mem_range'_1.1 hm

theorem append (h : Supplied I first middle ids) (h' : Supplied I middle last ids') :
    Supplied I first last (ids ++ ids') := by
  obtain ⟨hle, ns, hperm, hnodup, hns⟩ := h
  obtain ⟨hle', ns', hperm', hnodup', hns'⟩ := h'
  refine ⟨Nat.le_trans hle hle', ns ++ ns', ?_, hnodup.append hnodup' fun n hn hn' => ?_, ?_⟩
  · rw [List.map_append]
    exact hperm.append hperm'
  · have := hns n hn
    have := hns' n hn'
    omega
  · rw [List.forall_mem_append]
    refine ⟨fun n hn => ?_, fun n hn => ?_⟩
    · have := hns n hn
      omega
    · have := hns' n hn
      omega

end Supplied

/-- What a flattener is called with. -/
inductive Call where
  | document (d : Document)
  | text (text : String)

namespace Flattener

/-- The frame that a call gives, if there is one. -/
def framesOf : EStateM.Result Error Ledger (Outcome ι) → List (Frame ι)
  | .ok (.flattened F) _ => [F]
  | _ => []

def call (f : Flattener ι) : Call → Flattening (Outcome ι)
  | .document d => f.flatten d
  | .text text => f.flattenText text

/-- The frames that the calls give, one after the other, and the ledger in the end. -/
def run (f : Flattener ι) : List Call → Ledger → List (Frame ι) × Ledger
  | [], ledger => ([], ledger)
  | c :: cs, ledger =>
    let result := f.call c ledger
    let (frames, last) := f.run cs (finalState result)
    (framesOf result ++ frames, last)

variable (f : Flattener ι)

theorem flatten_supplied (d : Document) (ledger : Ledger) :
    Supplied f.issuer ledger.issued (finalState (f.flatten d ledger)).issued
      ((framesOf (f.flatten d ledger)).flatMap Frame.ids) := by
  by_cases hs : d.schema = ""
  · rw [flatten_of_no_schema ledger hs]
    exact .nil (Nat.le_refl _)
  by_cases hw : Nesting.Within f.settings.maxDepth d.blocks
  · rw [flatten_of_within ledger hs hw]
    cases f.validator (submitted d) d.schema with
    | error e => exact .nil (Nat.le_refl _)
    | ok verdict =>
      cases verdict with
      | invalid violations => exact .nil (Nat.le_refl _)
      | valid =>
        have hgoes := Document.number_goes f.issuer f.settings ledger.issued d
        have hle : ledger.issued ≤ finalState (d.number f.issuer f.settings ledger.issued) := by
          rw [hgoes.run]
          exact le_play _ _ _
        dsimp only
        cases hd : d.faults f.settings with
        | nil =>
          rw [Document.number_of_no_faults f.issuer ledger.issued hd]
          refine .of_stretch ?_
          rw [framesOf, List.flatMap_singleton]
          exact Document.ids_placed f.issuer f.settings ledger.issued d
        | cons e errors =>
          obtain ⟨m, hm⟩ := Document.number_of_faults f.issuer ledger.issued hd
          rw [hm] at hle ⊢
          exact .nil hle
  · rw [flatten_of_too_deep ledger hs hw]
    exact .nil (Nat.le_refl _)

theorem call_supplied (c : Call) (ledger : Ledger) :
    Supplied f.issuer ledger.issued (finalState (f.call c ledger)).issued
      ((framesOf (f.call c ledger)).flatMap Frame.ids) := by
  cases c with
  | document d => exact f.flatten_supplied d ledger
  | text text =>
    rw [call, flattenText]
    cases Document.parse text with
    | ok d => exact f.flatten_supplied d ledger
    | error reason => exact .nil (Nat.le_refl _)

/-- **Runs.** The ids of all frames of a run belong to different numbers. -/
theorem run_supplied (calls : List Call) (ledger : Ledger) :
    Supplied f.issuer ledger.issued (f.run calls ledger).2.issued
      ((f.run calls ledger).1.flatMap Frame.ids) := by
  induction calls generalizing ledger with
  | nil => exact .nil (Nat.le_refl _)
  | cons c cs ih =>
    rw [run, List.flatMap_append]
    exact (f.call_supplied c ledger).append (ih _)

end Flattener

/-! ## Sequential ids -/

namespace Issuer

theorem sequential_eq (stem : String) (n : Nat) :
    (sequential stem).id n = stem ++ "-" ++ toString (n + 1) := by
  show stem ++ "-" ++ String.ofList (Json.decimal (n + 1)) = _
  rw [Json.decimal_eq_toDigits]
  rfl

/-- **Stems.** The number is what follows the last hyphen, so an id tells its stem and its number,
whatever the stem is. -/
theorem sequential_injective {stem stem' : String} {m n : Nat}
    (h : (sequential stem).id m = (sequential stem').id n) : stem = stem' ∧ m = n := by
  -- Read from the end, an id is its digits up to the first hyphen.
  have hdigits (stem : String) (n : Nat) :
      ((sequential stem).id n).toList.reverse.takeWhile (· != '-') =
        (Json.decimal (n + 1)).reverse := by
    rw [toList_sequential, List.reverse_append, List.reverse_cons, List.append_assoc,
      List.takeWhile_append_of_pos, List.singleton_append, List.takeWhile_cons_of_neg (by simp),
      List.append_nil]
    intro c hc
    rw [List.mem_reverse, Json.decimal_eq_toDigits] at hc
    have hdigit := Nat.isDigit_of_mem_toDigits (by decide) (by decide) hc
    rw [bne_iff_ne]
    rintro rfl
    exact absurd hdigit (by decide)
  have hmn : m = n := by
    have hreverse : (Json.decimal (m + 1)).reverse = (Json.decimal (n + 1)).reverse := by
      rw [← hdigits stem m, h, hdigits stem' n]
    exact Nat.succ.inj (Json.decimal_injective (List.reverse_inj.1 hreverse))
  subst hmn
  have hlist := congrArg String.toList h
  rw [toList_sequential, toList_sequential] at hlist
  exact ⟨String.toList_inj.1 (List.append_cancel_right hlist), rfl⟩

end Issuer

/-- **Ids are unique over whole runs.** Whatever a flattener with sequential ids is called with, and
however the calls end, the ids of all entities of all frames are pairwise distinct; each of them is
the stem, a hyphen and a number from one up to the number of ids issued. No id that is issued under
one stem is issued under another. -/
theorem Flattener.run_ids (settings : Settings) (validator : Validator) (stem : String)
    (calls : List Call) :
    let f : Flattener String := ⟨settings, validator, .sequential stem⟩
    let (frames, ledger) := f.run calls .empty
    (frames.flatMap Frame.ids).Nodup ∧
      (∀ id ∈ frames.flatMap Frame.ids, id ≠ "" ∧
        ∃ n, 1 ≤ n ∧ n ≤ ledger.issued ∧ id = stem ++ "-" ++ toString n) ∧
      ∀ stem', stem' ≠ stem → ∀ m n, (Issuer.sequential stem').id m ≠ f.issuer.id n := by
  intro f
  obtain ⟨-, ns, hperm, hnodup, hns⟩ := f.run_supplied calls .empty
  refine ⟨?_, ?_, ?_⟩
  · rw [hperm.nodup_iff]
    exact hnodup.map fun m n hmn => (Issuer.sequential_injective hmn).2
  · intro id hid
    obtain ⟨n, hn, rfl⟩ := List.mem_map.1 (hperm.mem_iff.1 hid)
    have hne := (Issuer.fresh_sequential stem n (n + 1)).ne_empty n (Nat.le_refl n)
      (Nat.lt_succ_self n)
    exact ⟨hne, n + 1, Nat.le_add_left 1 n, (hns n hn).2, Issuer.sequential_eq stem n⟩
  · intro stem' hne m n h
    exact hne (Issuer.sequential_injective h).1

theorem Flattener.run_ids_profile :
    let (frames, ledger) := standard.run [.document .profile, .document default, .document .profile]
      .empty
    frames = [Document.placed (.sequential "id") .standard 0 .profile,
        Document.placed (.sequential "id") .standard 13 .profile] ∧
      ledger.issued = 26 ∧ (frames.flatMap Frame.ids).Nodup ∧
      "stem" ≠ "id" ∧ ∀ n, (Issuer.sequential "stem").id 0 ≠ (Issuer.sequential "id").id n := by
  have hprofile (ledger : Ledger) := flatten_of_no_faults ledger faults_profile
  have hrun : standard.run [.document .profile, .document default, .document .profile] .empty =
      ([Document.placed (.sequential "id") .standard 0 .profile,
          Document.placed (.sequential "id") .standard 13 .profile],
        { standard.asked .profile (standard.asked .profile .empty) with issued := 26 }) := by
    simp only [run, call, hprofile, finalState, framesOf]
    rfl
  obtain ⟨hnodup, -, hstem⟩ := run_ids .standard .acceptAll "id"
    [.document .profile, .document default, .document .profile]
  have hne : "stem" ≠ "id" := by decide
  refine ⟨congrArg Prod.fst hrun, ?_, hnodup, hne, hstem "stem" hne 0⟩
  exact congrArg (·.2.issued) hrun

end FrameTree
