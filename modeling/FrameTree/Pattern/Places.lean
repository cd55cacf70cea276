import FrameTree.Pattern
import Std.Data.HashSet

/-!
# Where a regular pattern leads

A place of a text is the number of characters before it. `Pattern.reach` takes a set of places, each
of them listed once, to the places where a match from one of them can end. All places are followed
together, so every part of a pattern is tried once at each place and not once for every way of
getting there.

**Repetition.** After as many rounds as the lower limit asks for, each further round starts from the
new places only. More rounds than the text has places add nothing: one of them takes no character
and could be left out.
-/

namespace FrameTree.Pattern

/-- The places of two sets. -/
def joinPlaces (xs ys : List Nat) : List Nat :=
  match xs, ys with
  | [], ys => ys
  | xs, [] => xs
  | xs, ys =>
    let seen := Std.HashSet.ofList xs
    xs ++ ys.filter fun i => !seen.contains i

/-- The places after an exact number of rounds. -/
def exactly (round : List Nat → List Nat) : Nat → List Nat → List Nat
  | 0, places => places
  | n + 1, places => if places.isEmpty then [] else exactly round n (round places)

/-- The places after any number of rounds up to a limit, given those found so far and the last ones
among them. -/
def upTo (round : List Nat → List Nat) :
    Nat → (seen : Std.HashSet Nat) → (found last : List Nat) → List Nat
  | 0, _, found, _ => found
  | n + 1, seen, found, last =>
    let new := (round last).filter fun i => !seen.contains i
    if new.isEmpty then found else upTo round n (seen.insertMany new) (new ++ found) new

/-- The places where a match from one of the places can end. -/
def reach (text : Array Char) : Pattern → List Nat → List Nat
  | .empty, places => places
  | .char fold cls, places =>
    (places.filter fun i => (text[i]?.map (cls.mem fold)).getD false).map (· + 1)
  | .anchor a, places => places.filter (a.holdsAt text)
  | .seq p q, places => q.reach text (p.reach text places)
  | .alt p q, places => joinPlaces (p.reach text places) (q.reach text places)
  | .times p low high _, places =>
    let most := text.size + 1
    let start := exactly (p.reach text) (min low most) places
    let more := match high with
      | some high => min (high - low) most
      | none => most
    upTo (p.reach text) more (Std.HashSet.ofList start) start start
  | .group _ p, places => p.reach text places
  | .look .ahead negated p, places =>
    places.filter fun i => (p.reach text [i]).isEmpty == negated
  | .look .behind negated p, places =>
    places.filter fun i =>
      match p.width? with
      | some n => (i < n || (p.reach text [i - n]).isEmpty) == negated
      | none => negated
  | .atomic p, places => p.reach text places
  | .again _ _, _ => []

/-- A match starts somewhere in the text. -/
def reachesFromAnywhere (p : Pattern) (text : Array Char) : Bool :=
  !(p.reach text (List.range (text.size + 1))).isEmpty

end FrameTree.Pattern
