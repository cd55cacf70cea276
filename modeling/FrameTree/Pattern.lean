import FrameTree.Pattern.CharClass

/-!
# Patterns

A pattern describes the pieces of a text in which it occurs.

**Anchors** hold at a place between two characters or at an end of the text. **Looking** ahead or
behind also holds at a place, when a pattern does or does not occur from there on or up to there.

**Counts** have a lower and perhaps an upper limit; a greedy one prefers more. **Groups** are
numbered from one and remember the piece that they matched last; `again` matches the same piece
once more. An **atomic** pattern keeps to the first way in which it matches.

Preferences and remembered pieces matter only where a pattern has an atomic part or an `again`:
a pattern without them (`Pattern.isRegular`) occurs in a text whatever it prefers.
-/

namespace FrameTree

/-- A condition on a place in a text. -/
inductive Anchor where
  | textStart
  | textEnd
  | lineStart
  | lineEnd
  | wordBoundary
  | notWordBoundary
  | wordStart
  | wordEnd
deriving DecidableEq, Repr, Inhabited

/-- The direction of looking. -/
inductive Direction where
  | ahead
  | behind
deriving DecidableEq, Repr, Inhabited

/-- A regular expression with the usual extensions. -/
inductive Pattern where
  | empty
  /-- One character of a class, without regard to case if `fold`. -/
  | char (fold : Bool) (cls : CharClass)
  | anchor (a : Anchor)
  | seq (first second : Pattern)
  | alt (first second : Pattern)
  | times (body : Pattern) (low : Nat) (high : Option Nat) (greedy : Bool)
  | group (number : Nat) (body : Pattern)
  | look (direction : Direction) (negated : Bool) (body : Pattern)
  | atomic (body : Pattern)
  | again (number : Nat) (fold : Bool)
deriving Repr, Inhabited

namespace Pattern

/-- The number of characters of every match, if it is the same for all of them. -/
def width? : Pattern → Option Nat
  | .empty => some 0
  | .char _ _ => some 1
  | .anchor _ => some 0
  | .seq p q => do return (← p.width?) + (← q.width?)
  | .alt p q => do
    let n ← p.width?
    if n = (← q.width?) then some n else none
  | .times p low high _ => do
    let n ← p.width?
    if high = some low then some (low * n) else none
  | .group _ p => p.width?
  | .look _ _ _ => some 0
  | .atomic p => p.width?
  | .again _ _ => none

/-- The pattern has neither an atomic part nor a piece to be matched again. -/
def isRegular : Pattern → Bool
  | .empty | .char _ _ | .anchor _ => true
  | .seq p q | .alt p q => p.isRegular && q.isRegular
  | .times p _ _ _ | .group _ p | .look _ _ p => p.isRegular
  | .atomic _ | .again _ _ => false

/-- One pattern after another, nothing added for an empty one. -/
def followedBy : Pattern → Pattern → Pattern
  | .empty, q => q
  | p, .empty => p
  | p, q => .seq p q

end Pattern

/-! ## Anchors in a text -/

namespace Anchor

/-- The character at an index is part of a word. -/
def inWord (text : Array Char) (i : Nat) : Bool := (text[i]?.map Text.isWordChar).getD false

/-- The character before an index is part of a word. -/
def afterWord (text : Array Char) : Nat → Bool
  | 0 => false
  | i + 1 => inWord text i

/-- The anchor holds before the character at an index. -/
def holdsAt (text : Array Char) (i : Nat) : Anchor → Bool
  | .textStart => i == 0
  | .textEnd => i == text.size
  | .lineStart => i == 0 || text[i - 1]? == some '\n'
  | .lineEnd => i == text.size || text[i]? == some '\n'
  | .wordBoundary => afterWord text i != inWord text i
  | .notWordBoundary => afterWord text i == inWord text i
  | .wordStart => !afterWord text i && inWord text i
  | .wordEnd => afterWord text i && !inWord text i

end Anchor

end FrameTree
