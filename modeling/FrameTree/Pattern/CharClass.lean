import FrameTree.Text.Folding
import FrameTree.Text.Property

/-!
# Classes of characters

A class is built from ranges and properties by the operations on sets. Membership can disregard
case: a character then belongs to a range or a property if one of its variants does, and a
complement is taken after that.
-/

namespace FrameTree

open Text (Property)

/-- A set of characters. -/
inductive CharClass where
  | empty
  /-- The characters from `low` to `high`. -/
  | range (low high : Char)
  | property (p : Property)
  | compl (body : CharClass)
  | union (left right : CharClass)
  | inter (left right : CharClass)
  | diff (left right : CharClass)
  /-- The characters of exactly one of two classes. -/
  | symmDiff (left right : CharClass)
deriving Repr, Inhabited

namespace CharClass

/-- The character belongs to the class, without regard to case if `fold`. -/
def mem (fold : Bool) : CharClass → Char → Bool
  | .empty, _ => false
  | .range low high, c =>
    (low ≤ c && c ≤ high) || (fold && (Text.variants c).any fun d => low ≤ d && d ≤ high)
  | .property p, c => p.holds c || (fold && (Text.variants c).any p.holds)
  | .compl body, c => !body.mem fold c
  | .union left right, c => left.mem fold c || right.mem fold c
  | .inter left right, c => left.mem fold c && right.mem fold c
  | .diff left right, c => left.mem fold c && !right.mem fold c
  | .symmDiff left right, c => left.mem fold c != right.mem fold c

def single (c : Char) : CharClass := .range c c

/-- The characters of some ranges. -/
def ranges (rs : List (Char × Char)) : CharClass :=
  rs.foldr (fun (low, high) rest => .union (.range low high) rest) .empty

/-- The class or its complement. -/
def complIf (negated : Bool) (body : CharClass) : CharClass :=
  if negated then .compl body else body

/-- All characters but a line feed. -/
def notLineFeed : CharClass := .compl (single '\n')

/-! ## Named classes -/

def digits : CharClass := .range '0' '9'

def hexDigits : CharClass := ranges [('0', '9'), ('A', 'F'), ('a', 'f')]

def wordChars : CharClass := ranges [('0', '9'), ('A', 'Z'), ('_', '_'), ('a', 'z')]

/-- The blanks among the basic characters, and three others. -/
def blanks : CharClass :=
  ranges [('\t', '\r'), (' ', ' '), ('\u2003', '\u2003'), ('\u2029', '\u2029'),
    ('\ufeff', '\ufeff')]

/-- The digits of all scripts. -/
def allDigits : CharClass := .property (.categories [.decimalNumber])

/-- The characters of words in all scripts. -/
def allWordChars : CharClass := .property .word

/-- All blanks. -/
def allBlanks : CharClass := .property (.flag Text.whiteSpace)

/-- The classes of basic characters that have a name. -/
def named? (name : String) : Option CharClass :=
  match name with
  | "alnum" => some (ranges [('0', '9'), ('A', 'Z'), ('a', 'z')])
  | "alpha" => some (ranges [('A', 'Z'), ('a', 'z')])
  | "ascii" => some (.range '\x00' '\x7f')
  | "blank" => some (ranges [('\t', '\t'), (' ', ' ')])
  | "cntrl" => some (ranges [('\x00', '\x1f'), ('\x7f', '\x7f')])
  | "digit" => some digits
  | "graph" => some (.range '!' '~')
  | "lower" => some (.range 'a' 'z')
  | "print" => some (.range ' ' '~')
  | "punct" => some (ranges [('!', '/'), (':', '@'), ('[', (Char.ofNat 0x60)), ('\x7b', '~')])
  | "space" => some (ranges [('\t', '\r'), (' ', ' ')])
  | "upper" => some (.range 'A' 'Z')
  | "word" => some wordChars
  | "xdigit" => some hexDigits
  | _ => none

end CharClass

end FrameTree
