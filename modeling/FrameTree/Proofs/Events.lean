import FrameTree.Flatten
import FrameTree.Proofs.Numbered

/-!
# What happens in a walk

A part of the numbering walk does nothing but issue ids and check rules, and what it checks does not
depend on the ids. So it can be described by the list of its events: an id is issued, or a rule is
found broken. The list goes on after a broken rule, with everything that would have come next; the
walk itself plays the list up to the first broken rule (`play`).

**Description** (`Goes`). `Goes n x es k a`: started after `n` ids, the part `x` plays the events
`es`, which issue `k` ids, and gives `a` unless a rule is broken.

Main results: `Goes.bind` for parts one after the other, `Goes.mapM` for the members of a list,
`Goes.enterAll` for the nodes of a forest, `play_of_faults` for how a walk ends.
-/

namespace FrameTree

variable {α β ι : Type}

inductive Event where
  | issued
  | broken (e : Error)
deriving DecidableEq, Repr

namespace Event

def fault? : Event → Option Error
  | .issued => none
  | .broken e => some e

/-- The errors of all broken rules in order. -/
def faults (es : List Event) : List Error := es.filterMap fault?

/-- The number of ids issued, if no rule is broken. -/
def issues (es : List Event) : Nat := es.count .issued

/-- The number of ids issued up to the first broken rule. -/
def used : List Event → Nat
  | [] => 0
  | .issued :: es => used es + 1
  | .broken _ :: _ => 0

@[simp] theorem issues_issued (es : List Event) : issues (.issued :: es) = issues es + 1 := by
  simp [issues]

@[simp] theorem issues_broken (e : Error) (es : List Event) :
    issues (.broken e :: es) = issues es := by
  simp [issues]

@[simp] theorem issues_append (es fs : List Event) : issues (es ++ fs) = issues es + issues fs :=
  List.count_append

@[simp] theorem issues_map_broken (errors : List Error) : issues (errors.map broken) = 0 := by
  induction errors with
  | nil => rfl
  | cons e errors ih => rw [List.map_cons, issues_broken, ih]

@[simp] theorem faults_issued (es : List Event) : faults (.issued :: es) = faults es := rfl

@[simp] theorem faults_append (es fs : List Event) : faults (es ++ fs) = faults es ++ faults fs :=
  List.filterMap_append

@[simp] theorem faults_map_broken (errors : List Error) : faults (errors.map broken) = errors := by
  simp [faults, List.filterMap_map, Function.comp_def, fault?]

@[simp] theorem faults_replicate (n : Nat) : faults (List.replicate n issued) = [] := by
  simp [faults, fault?]

@[simp] theorem faults_flatMap (f : α → List Event) (xs : List α) :
    faults (xs.flatMap f) = xs.flatMap fun x => faults (f x) :=
  List.filterMap_flatMap

end Event

open Event

/-! ## Playing events -/

/-- Goes through the events up to the first broken rule, and gives `a` if there is none. -/
def play (a : α) : List Event → Numbering α
  | [], n => .ok a n
  | .issued :: es, n => play a es (n + 1)
  | .broken e :: _, n => .error e n

theorem play_of_no_faults (a : α) {es : List Event} (h : faults es = []) (n : Nat) :
    play a es n = .ok a (n + issues es) := by
  induction es generalizing n with
  | nil => rfl
  | cons e es ih =>
    cases e with
    | issued => rw [play, ih h, issues_issued, Nat.add_assoc, Nat.add_comm 1]
    | broken e => cases h

theorem play_of_faults (a : α) {es : List Event} {e : Error} {errors : List Error}
    (h : faults es = e :: errors) (n : Nat) : ∃ m, play a es n = .error e m := by
  induction es generalizing n with
  | nil => cases h
  | cons e' es ih =>
    cases e' with
    | issued => exact ih h (n + 1)
    | broken e' =>
      cases h
      exact ⟨n, rfl⟩

/-- How many ids are issued, and whether a rule is broken, does not depend on what is given. -/
theorem play_eq (a : α) (es : List Event) (n : Nat) :
    play a es n =
      match faults es with
      | [] => .ok a (n + used es)
      | e :: _ => .error e (n + used es) := by
  induction es generalizing n with
  | nil => rfl
  | cons e es ih =>
    cases e with
    | issued => rw [play, ih, used, faults_issued, Nat.add_assoc, Nat.add_comm 1]
    | broken e => rfl

/-- The first of some errors, if there is any. -/
def firstError : List Error → Except Error Unit
  | [] => .ok ()
  | e :: _ => .error e

theorem play_bind (a : α) {f : α → Numbering β} {b : β} (es : List Event) {fs : List Event}
    {n : Nat} (h : f a (n + issues es) = play b fs (n + issues es)) :
    (play a es >>= f) n = play b (es ++ fs) n := by
  induction es generalizing n with
  | nil => exact h
  | cons e es ih =>
    cases e with
    | issued =>
      refine ih ?_
      rwa [issues_issued, Nat.add_comm (issues es), ← Nat.add_assoc] at h
    | broken e => rfl

/-! ## Descriptions -/

/-- Started after `n` ids, the part `x` of the walk plays the events `es`, which issue `k` ids, and
gives `a` unless a rule is broken. -/
structure Goes (n : Nat) (x : Numbering α) (es : List Event) (k : Nat) (a : α) : Prop where
  issues : issues es = k
  run : x n = play a es n

namespace Goes

variable {n : Nat}

theorem pure (a : α) : Goes n (Pure.pure a) [] 0 a := ⟨rfl, rfl⟩

theorem bind {x : Numbering α} {f : α → Numbering β} {es fs : List Event} {k l : Nat} {a : α}
    {b : β} (hx : Goes n x es k a) (hf : Goes (n + k) (f a) fs l b) :
    Goes n (x >>= f) (es ++ fs) (k + l) b where
  issues := by rw [issues_append, hx.issues, hf.issues]
  run := by
    have hplay : (play a es >>= f) n = play b (es ++ fs) n :=
      play_bind a es (by rw [hx.issues, hf.run])
    rw [← hplay]
    show EStateM.bind x f n = EStateM.bind (play a es) f n
    rw [EStateM.bind, EStateM.bind, hx.run]

theorem map {x : Numbering α} {es : List Event} {k : Nat} {a : α} (hx : Goes n x es k a)
    (f : α → β) : Goes n (x >>= fun a => Pure.pure (f a)) es k (f a) where
  issues := hx.issues
  run := by
    have hpure : Goes (n + k) (Pure.pure (f a) : Numbering β) [] 0 (f a) := .pure (f a)
    rw [(hx.bind (f := fun a => Pure.pure (f a)) hpure).run, List.append_nil]

theorem of_eq {x : Numbering α} {es es' : List Event} {k k' : Nat} {a a' : α}
    (h : Goes n x es k a) (hes : es = es') (hk : k = k') (ha : a = a') : Goes n x es' k' a' := by
  subst hes hk ha
  exact h

theorem issue (I : Issuer ι) : Goes n (Numbering.issue I) [.issued] 1 (I.id n) := ⟨rfl, rfl⟩

theorem check (errors : List Error) :
    Goes n (Numbering.check (firstError errors)) (errors.map .broken) 0 () where
  issues := issues_map_broken errors
  run := by cases errors <;> rfl

theorem mapM {f : α → Numbering β} {events : α → List Event} {cost : α → Nat}
    {make : Nat → α → β} {xs : List α}
    (h : ∀ m, ∀ x ∈ xs, Goes m (f x) (events x) (cost x) (make m x)) :
    Goes n (xs.mapM f) (xs.flatMap events) (xs.map cost).sum (consecutive cost make n xs) := by
  induction xs generalizing n with
  | nil => exact .pure []
  | cons x xs ih =>
    have hxs : ∀ m, ∀ y ∈ xs, Goes m (f y) (events y) (cost y) (make m y) := fun m y hy =>
      h m y (List.mem_cons_of_mem x hy)
    rw [List.mapM_cons]
    exact (h n x List.mem_cons_self).bind ((ih hxs).map (make n x :: ·))

theorem issueEach (I : Issuer ι) (flat : ι → α → β) (xs : List α) :
    Goes n (Numbering.issueEach I flat xs) (List.replicate xs.length .issued) xs.length
      (consecutive (fun _ => 1) (fun m => flat (I.id m)) n xs) := by
  have heach : ∀ m, ∀ x ∈ xs, Goes m (do return flat (← Numbering.issue I) x) [.issued] 1
      (flat (I.id m) x) := fun m x _ => (Goes.issue I).map (flat · x)
  refine Goes.of_eq (Goes.mapM heach) ?_ ?_ rfl
  · rw [← List.map_eq_flatMap, List.map_const']
  · rw [List.map_const', List.sum_replicate_nat, Nat.mul_one]

/-- **A walk through a forest.** If every visit goes as described, told the parent's result, so does
the walk, and it gives the results of all spots in pre-order. -/
theorem enterAll {visit : Option β → Nat → α → Nat → Numbering β}
    {events : Visit α → List Event} {cost : α → Nat} {make : Spot α → β}
    (h : ∀ (up : Option (Spot α)) (s : Spot α) (below : Nat), s.parent = up.map Spot.index →
      Goes s.index (visit (up.map make) s.place s.label below)
        (events ⟨up.map Spot.label, s.label, below⟩) (cost s.label) (make s))
    (ts : Forest α) (up : Option (Spot α)) (k : Nat) :
    Goes n (Tree.enterAll visit (up.map make) k ts)
      ((Forest.visits (up.map Spot.label) ts).flatMap events) (Forest.weight cost ts)
      ((Forest.labels (Forest.numbered cost (up.map Spot.index) k n ts)).map make) := by
  induction ts using Forest.induction generalizing up k n with
  | nil => exact .pure []
  | cons a ts rest ih ih' =>
    have hvisit := h up ⟨a, n, k, up.map Spot.index⟩ ts.length rfl
    have hbelow := ih (some ⟨a, n, k, up.map Spot.index⟩) 0 (n := n + cost a)
    have hrest := ih' up (k + 1) (n := n + (cost a + Forest.weight cost ts))
    simp only [Tree.enterAll, Tree.enter]
    refine Goes.of_eq (.bind (.bind hvisit (.map hbelow _)) (.map hrest _)) ?_ ?_ ?_
    · simp
    · rw [Forest.weight_cons]
    · simp

end Goes

end FrameTree
