import FrameTree.Proofs.Flattening

/-!
# Ids influence nothing

What flattening does with a document can be told without knowing a single id: what the validator is
asked, how many ids are issued, and the error, the violations, or the frame, which for every id
has a number instead, telling which of the issued ids it is.

**Skeletons** (`Skeleton`). Such a description. Filled in with the ids of an issuer from some number
on, it becomes a result of flattening (`Skeleton.fill`).

**Following** (`Issuer.Follows`). One issuer issues the ids of another one under other names, and
some numbers later. Then the frames that both make of a document have the same shape, and the names
of one are what stands in the other (`Document.placed_of_follows`).

Main result: `Flattener.exists_skeleton`.
-/

namespace FrameTree

variable {ι κ α β γ : Type}

/-! ## Following -/

namespace Issuer

/-- From the number `lo` up to `hi`, `J` issues the ids of `I` under another name, `c` numbers
later. -/
structure Follows (f : ι → κ) (c lo hi : Nat) (I : Issuer ι) (J : Issuer κ) : Prop where
  absent : J.absent = f I.absent
  id : ∀ i, lo ≤ i → i < hi → J.id (c + i) = f (I.id i)

namespace Follows

variable {f : ι → κ} {c lo hi : Nat} {I : Issuer ι} {J : Issuer κ} (h : Follows f c lo hi I J)

include h

theorem link {p : Option Nat} (hp : ∀ i, p = some i → lo ≤ i ∧ i < hi) :
    J.link (p.map (c + ·)) = f (I.link p) := by
  cases p with
  | none => exact h.absent
  | some i => exact h.id i (hp i rfl).1 (hp i rfl).2

theorem parts {flat : ι → α → β} {flat' : κ → α → γ} {g : β → γ}
    (hflat : ∀ id x, flat' (f id) x = g (flat id x)) {n : Nat} {xs : List α} (hlo : lo ≤ n)
    (hhi : n + xs.length ≤ hi) : J.parts flat' (c + n) xs = (I.parts flat n xs).map g := by
  refine consecutive_add fun i x _ hi hi' => ?_
  rw [List.map_const', List.sum_replicate_nat, Nat.mul_one] at hi'
  rw [h.id i (by omega) (by omega), hflat]

end Follows

end Issuer

namespace Document

open Issuer (Follows)

variable {f : ι → κ} {c lo hi : Nat} {I : Issuer ι} {J : Issuer κ} (h : Follows f c lo hi I J)

include h

theorem Trigger.placed_of_follows (actionId : ι) {s : Spot Trigger}
    (hparent : ∀ i, s.parent = some i → lo ≤ i ∧ i < hi) (hlo : lo ≤ s.index)
    (hhi : s.index + s.label.idCount ≤ hi) :
    Trigger.placed J (f actionId) (s.later c) = (Trigger.placed I actionId s).rename f := by
  rw [Trigger.idCount] at hhi
  let n := s.index + 1
  have hid : J.id (c + s.index) = f (I.id s.index) := h.id _ hlo (by omega)
  have hproperties : J.parts (TriggerProperty.flat (f (I.id s.index))) (c + n) s.label.properties =
      (I.parts (TriggerProperty.flat (I.id s.index)) n s.label.properties).map (·.rename f) :=
    h.parts (fun _ _ => rfl) (by omega) (by omega)
  have hdata : J.parts (Binding.flatInTrigger (f (I.id s.index)))
        (c + (n + s.label.properties.length)) s.label.data =
      (I.parts (Binding.flatInTrigger (I.id s.index)) (n + s.label.properties.length)
        s.label.data).map (·.rename f) :=
    h.parts (fun _ _ => rfl) (by omega) (by omega)
  simp only [n, ← Nat.add_assoc] at hproperties hdata
  simp only [Trigger.placed, Spot.later, hid, h.link hparent, hproperties, hdata]
  rfl

theorem Action.placed_of_follows (frameId : ι) (key : String) {n : Nat} {a : Action}
    (hlo : lo ≤ n) (hhi : n + a.idCount ≤ hi) :
    a.placed J (f frameId) key (c + n) = (a.placed I frameId key n).rename f := by
  rw [Action.idCount] at hhi
  have hid : J.id (c + n) = f (I.id n) := h.id n hlo (by omega)
  have hspot : ∀ s ∈ Forest.labels (a.spots (n + 1)),
      Trigger.placed J (f (I.id n)) (s.later c) = (Trigger.placed I (I.id n) s).rename f := by
    intro s hs
    have hindex := Forest.index_numbered Trigger.idCount none 0 (n + 1) a.triggers s hs
    refine Trigger.placed_of_follows h (I.id n) (fun i hi => ?_) (by omega) (by omega)
    have hparent := Forest.parent_bounds Trigger.idCount_pos hs hi
    omega
  have htriggers := Forest.map_labels_numbered_add hspot
  simp only [Action.placed, Action.spots, hid]
  rw [Nat.add_assoc, htriggers]
  rfl

theorem Block.placedActions_of_follows (frameId : ι) {s : Spot Block} (hlo : lo ≤ s.index)
    (hhi : s.index + s.label.idCount ≤ hi) :
    Block.placedActions J (f frameId) (s.later c) =
      (Block.placedActions I frameId s).map (Frame.Action.rename f) := by
  rw [Block.idCount] at hhi
  have haction : ∀ m, ∀ a ∈ s.label.actions, s.index + 1 ≤ m →
      m + a.idCount ≤ s.index + 1 + (s.label.actions.map Action.idCount).sum →
        a.placed J (f frameId) s.label.key (c + m) =
          (a.placed I frameId s.label.key m).rename f := fun m a _ hm hm' =>
    Action.placed_of_follows h frameId s.label.key (by omega) (by omega)
  exact consecutive_add haction

theorem Block.placed_of_follows (settings : Settings) (frameId : ι) {s : Spot Block}
    (hparent : ∀ i, s.parent = some i → lo ≤ i ∧ i < hi) (hlo : lo ≤ s.index)
    (hhi : s.index + s.label.idCount ≤ hi) :
    Block.placed J settings (f frameId) (s.later c) =
      (Block.placed I settings frameId s).rename f := by
  rw [Block.idCount] at hhi
  let n := s.index + 1 + (s.label.actions.map Action.idCount).sum
  let n' := n + s.label.properties.length
  let n'' := n' + s.label.data.length
  have hid : J.id (c + s.index) = f (I.id s.index) := h.id _ hlo (by omega)
  have hproperties : J.parts (Property.flat (f (I.id s.index))) (c + n) s.label.properties =
      (I.parts (Property.flat (I.id s.index)) n s.label.properties).map (·.rename f) :=
    h.parts (fun _ _ => rfl) (by omega) (by omega)
  have hdata : J.parts (Binding.flatInBlock (f (I.id s.index))) (c + n') s.label.data =
      (I.parts (Binding.flatInBlock (I.id s.index)) n' s.label.data).map (·.rename f) :=
    h.parts (fun _ _ => rfl) (by omega) (by omega)
  have hslots : J.parts (Slot.flat (f (I.id s.index))) (c + n'') s.label.slots =
      (I.parts (Slot.flat (I.id s.index)) n'' s.label.slots).map (·.rename f) :=
    h.parts (fun _ _ => rfl) (by omega) (by omega)
  simp only [n, n', n'', ← Nat.add_assoc] at hproperties hdata hslots
  simp only [Block.placed, Spot.later, hid, h.link hparent, hproperties, hdata, hslots]
  rfl

end Document

/-- **Frames of one shape.** If one issuer follows another, the frames that they make of a document
are the same but for the names of the ids. -/
theorem Document.placed_of_follows {f : ι → κ} {I : Issuer ι} {J : Issuer κ} {d : Document}
    {c n : Nat} (h : I.Follows f c n (n + d.idCount) J) (settings : Settings) :
    d.placed J settings (c + n) = (d.placed I settings n).rename f := by
  have hid : J.id (c + n) = f (I.id n) := h.id n (Nat.le_refl n) (by rw [idCount]; omega)
  have hvars : J.parts (Variable.flat (f (I.id n))) (c + (n + 1)) d.vars =
      (I.parts (Variable.flat (I.id n)) (n + 1) d.vars).map (·.rename f) :=
    h.parts (fun _ _ => rfl) (by omega) (by rw [idCount]; omega)
  have hindex {s : Spot Block} (hs : s ∈ Forest.labels (d.spots n)) := index_spots hs
  have hblock : ∀ s ∈ Forest.labels (d.spots n), Block.placed J settings (f (I.id n)) (s.later c) =
      (Block.placed I settings (I.id n) s).rename f := by
    intro s hs
    have := hindex hs
    refine Block.placed_of_follows h settings (I.id n) (fun i hi => ?_) (by omega) (by omega)
    have hparent := Forest.parent_bounds Block.idCount_pos hs hi
    rw [idCount]
    omega
  have hactions : ∀ s ∈ Forest.labels (d.spots n), Block.placedActions J (f (I.id n)) (s.later c) =
      (Block.placedActions I (I.id n) s).map (·.rename f) := by
    intro s hs
    have := hindex hs
    exact Block.placedActions_of_follows h (I.id n) (by omega) (by omega)
  have hblocks := Forest.map_labels_numbered_add hblock
  have hlists := congrArg List.flatten (Forest.map_labels_numbered_add hactions)
  rw [← List.map_flatten, ← List.flatMap_def, ← List.flatMap_def] at hlists
  simp only [placed, spots, hid]
  simp only [Nat.add_assoc] at *
  rw [hblocks, hlists, hvars]
  rfl

/-! ## Skeletons -/

/-- What is rejected stays as it is, and so does a frame but for its ids. -/
def Outcome.rename (f : ι → κ) : Outcome ι → Outcome κ
  | .flattened F => .flattened (F.rename f)
  | .rejected violations => .rejected violations

/-- What flattening does with a document, whatever the ids are. -/
structure Skeleton where
  /-- The calls of the validator. -/
  calls : List Consultation
  /-- The number of ids issued. -/
  issued : Nat
  /-- The error or the outcome. For each id stands which of the issued ones it is, and `none` for
  the mark that there is no parent. -/
  answer : Except Error (Outcome (Option (Fin issued)))

namespace Skeleton

/-- The id that a place among `k` ids stands for, if the first is issued after `n` others. -/
def name (I : Issuer ι) (n : Nat) {k : Nat} : Option (Fin k) → ι
  | none => I.absent
  | some i => I.id (n + i)

/-- The result of flattening, filled in with the next ids of an issuer. -/
def fill (s : Skeleton) (I : Issuer ι) (ledger : Ledger) :
    EStateM.Result Error Ledger (Outcome ι) :=
  let ledger' : Ledger := ⟨ledger.issued + s.issued, s.calls ++ ledger.calls⟩
  match s.answer with
  | .ok outcome => .ok (outcome.rename (name I ledger.issued)) ledger'
  | .error e => .error e ledger'

/-- Issues the places among `k` ids. -/
def places (k : Nat) : Issuer (Option (Fin k)) where
  id n := if h : n < k then some ⟨n, h⟩ else none
  absent := none

theorem places_follows (I : Issuer ι) (n k : Nat) :
    (places k).Follows (name I n) n 0 k I where
  absent := rfl
  id i _ hi := by simp only [places, dif_pos hi, name]

end Skeleton

/-- A walk numbers all that it comes to, or breaks off with the same error after the same number of
ids, whatever the ids are. -/
theorem Document.exists_walk (settings : Settings) (d : Document) :
    ∃ (k : Nat) (answer : Except Error (Frame (Option (Fin k)))),
      ∀ {ι : Type} (I : Issuer ι) (n : Nat),
        d.number I settings n =
          match answer with
          | .ok F => .ok (F.rename (Skeleton.name I n)) (n + k)
          | .error e => .error e (n + k) := by
  cases hd : d.faults settings with
  | cons e errors =>
    refine ⟨Event.used (d.events settings), .error e, fun I n => ?_⟩
    rw [(number_goes I settings n d).run, play_eq, faults_events, hd]
  | nil =>
    refine ⟨d.idCount, .ok (d.placed (Skeleton.places d.idCount) settings 0), fun I n => ?_⟩
    have hfollows :
        (Skeleton.places d.idCount).Follows (Skeleton.name I n) n 0 (0 + d.idCount) I := by
      rw [Nat.zero_add]
      exact Skeleton.places_follows I n d.idCount
    have hplaced := placed_of_follows hfollows settings
    rw [Nat.add_zero] at hplaced
    rw [number_of_no_faults I n hd, hplaced]

/-- **Ids influence nothing.** Given the settings, the validator and the document, there is one
skeleton such that flattening, with any ids whatsoever and after any number of them, gives the
skeleton filled in with the next ids. -/
theorem Flattener.exists_skeleton (settings : Settings) (validator : Validator) (d : Document) :
    ∃ s : Skeleton, ∀ {ι : Type} (I : Issuer ι) (ledger : Ledger),
      flatten ⟨settings, validator, I⟩ d ledger = s.fill I ledger := by
  let calls : List Consultation := [⟨submitted d, d.schema, validator (submitted d) d.schema⟩]
  by_cases hs : d.schema = ""
  · exact ⟨⟨[], 0, .error .missingSchema⟩, fun _ ledger => flatten_of_no_schema ledger hs⟩
  by_cases hw : Nesting.Within settings.maxDepth d.blocks
  · obtain ⟨k, walked, hwalk⟩ := d.exists_walk settings
    cases hv : validator (submitted d) d.schema with
    | error e =>
      refine ⟨⟨calls, 0, .error e⟩, fun I ledger => ?_⟩
      rw [flatten_of_within ledger hs hw]
      simp only [hv]
      rfl
    | ok verdict =>
      cases verdict with
      | invalid violations =>
        refine ⟨⟨calls, 0, .ok (.rejected violations)⟩, fun I ledger => ?_⟩
        rw [flatten_of_within ledger hs hw]
        simp only [hv]
        rfl
      | valid =>
        refine ⟨⟨calls, k, walked.map .flattened⟩, fun I ledger => ?_⟩
        rw [flatten_of_within ledger hs hw]
        simp only [hv, hwalk]
        cases walked <;> rfl
  · exact ⟨⟨[], 0, .error (.depthExceeded settings.maxDepth)⟩,
      fun _ ledger => flatten_of_too_deep ledger hs hw⟩

end FrameTree
