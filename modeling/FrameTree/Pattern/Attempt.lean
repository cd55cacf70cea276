import FrameTree.Pattern

/-!
# Trying a pattern in its own order

A pattern with atomic parts or remembered pieces is tried alternative by alternative, in the order
that it prefers. A match from a place is handed on to whatever has to match after it (`next`), and
when that fails the next way of matching is tried.

**Budget.** Going back to another alternative is paid for from a budget, which the whole search
shares. A search without budget gives up, and then it is not known whether the pattern occurs.

**Repetition.** Where there is no upper limit, a round beyond the lower one has to take a character,
so there are at most as many of them as there are characters. Where there is one, no more rounds are
tried than that and one, since one of them would take no character.
-/

namespace FrameTree.Pattern

/-- How far a match has come: the place, and the pieces of the groups, the last ones first. -/
structure Thread where
  place : Nat
  pieces : List (Nat × Nat × Nat)
deriving DecidableEq, Repr, Inhabited

/-- A search that draws on a budget and may give up. -/
abbrev Search := StateT Nat Option

/-- What a search starts with. -/
def fullBudget : Nat := 1000000

/-- Another way, if the first one leads nowhere. -/
def orElse (first second : Search (Option Thread)) : Search (Option Thread) := do
  match ← first with
  | some t => return some t
  | none =>
    match ← get with
    | 0 => failure
    | n + 1 =>
      set n
      second

/-- A search that leads nowhere. -/
def nowhere : Search (Option Thread) := return none

/-- What a match is handed on to. -/
abbrev Next := Thread → Search (Option Thread)

/-- Rounds beyond the lower limit, each of which has to take a character if `advancing`. -/
def moreRounds (round : Next → Next) (advancing greedy : Bool) : Nat → Next → Next
  | 0, next, t => next t
  | n + 1, next, t =>
    let again := round (fun u =>
      if advancing && u.place == t.place then nowhere
      else moreRounds round advancing greedy n next u) t
    if greedy then orElse again (next t) else orElse (next t) again

/-- Rounds up to the lower limit. -/
def firstRounds (round : Next → Next) : Nat → Next → Next
  | 0, next => next
  | n + 1, next => round (firstRounds round n next)

/-- Two characters are equal, or differ in case only if `fold`. -/
def sameChar (fold : Bool) (c d : Char) : Bool :=
  c == d || (fold && Text.foldedForm c.toNat == Text.foldedForm d.toNat)

/-- The piece of a text from `start` to before `stop` stands at another place too. -/
def standsAt (text : Array Char) (fold : Bool) (start stop place : Nat) : Bool :=
  (List.range (stop - start)).all fun k =>
    match text[start + k]?, text[place + k]? with
    | some c, some d => sameChar fold c d
    | _, _ => false

/-- The ways in which a pattern matches from a thread, tried in order until one of them can go on.
-/
def attempt (text : Array Char) : Pattern → Next → Next
  | .empty, next, t => next t
  | .char fold cls, next, t =>
    match text[t.place]? with
    | some c => if cls.mem fold c then next { t with place := t.place + 1 } else nowhere
    | none => nowhere
  | .anchor a, next, t => if a.holdsAt text t.place then next t else nowhere
  | .seq p q, next, t => p.attempt text (q.attempt text next) t
  | .alt p q, next, t => orElse (p.attempt text next t) (q.attempt text next t)
  | .times p low high greedy, next, t =>
    let more := match high with
      | some high => min (high - low) (text.size + 1)
      | none => text.size
    let rounds := moreRounds (p.attempt text) high.isNone greedy more next
    firstRounds (p.attempt text) (min low (text.size + 1)) rounds t
  | .group number p, next, t =>
    p.attempt text (fun u => next { u with pieces := (number, t.place, u.place) :: u.pieces }) t
  | .look .ahead negated p, next, t => do
    match ← p.attempt text (fun u => return some u) t, negated with
    | some u, false => next { u with place := t.place }
    | none, true => next t
    | _, _ => nowhere
  | .look .behind negated p, next, t => do
    match p.width? with
    | some n =>
      let found ← if t.place < n then nowhere
        else p.attempt text (fun u => return some u) { t with place := t.place - n }
      match found, negated with
      | some u, false => next { u with place := t.place }
      | none, true => next t
      | _, _ => nowhere
    | none => nowhere
  | .atomic p, next, t => do
    match ← p.attempt text (fun u => return some u) t with
    | some u => next u
    | none => nowhere
  | .again number fold, next, t =>
    match t.pieces.lookup number with
    | some (start, stop) =>
      if standsAt text fold start stop t.place then
        next { t with place := t.place + (stop - start) }
      else nowhere
    | none => nowhere

/-- Tries the places of a text one after the other. -/
def attemptFrom (p : Pattern) (text : Array Char) : List Nat → Search (Option Thread)
  | [] => nowhere
  | i :: rest =>
    orElse (p.attempt text (fun t => return some t) ⟨i, []⟩) (attemptFrom p text rest)

end FrameTree.Pattern
