import FrameTree.Pattern

/-!
# Escapes in patterns

**Two notations.** The text of a pattern is first read in the plain notation. Its shorthands for
digits, parts of words and blanks stand for basic characters. Looking around and matching a piece
again belong to the extended notation only: a text that has one of them is read again as a whole,
and then the shorthands stand for characters of all scripts and the reading is less strict.

**Escapes.** After a backslash stands a sign that would mean something else without it, a letter for
a character or a class, a code point in hexadecimal, or a property by its name.
-/

namespace FrameTree.Pattern

/-- Why the text of a pattern cannot be read. -/
inductive Fault where
  | malformed
  /-- Something belongs to the extended notation, with so many characters left from there on. -/
  | extended (left : Nat)
deriving DecidableEq, Repr, Inhabited

/-- The notation that a text is read in. -/
inductive Dialect where
  | plain
  /-- The first sign of the extended notation has so many characters left from there on. -/
  | extended (left : Nat)
deriving DecidableEq, Repr, Inhabited

def Dialect.isPlain : Dialect → Bool
  | .plain => true
  | .extended _ => false

abbrev Parsing := Except Fault

def malformed {α : Type} : Parsing α := .error .malformed

/-- A part that has to be there. -/
def required {α : Type} : Option α → Parsing α
  | some a => .ok a
  | none => malformed

/-- What an escape stands for. -/
inductive Escaped where
  | literal (c : Char)
  | oneOf (cls : CharClass)
  | anchor (a : Anchor)
deriving Repr, Inhabited

/-! ## Code points -/

/-- The character that hexadecimal digits stand for. -/
def hexChar (digits : List Char) : Parsing Char := do
  let values ← required (digits.mapM Text.hexValue?)
  let n := values.foldl (fun n d => 16 * n + d) 0
  if n.isValidChar then return Char.ofNat n else malformed

/-- The greatest number of hexadecimal digits between braces. -/
def maxHexDigits : Nat := 8

/-- A code point with a fixed number of digits, or with digits between braces. -/
def codePoint (count : Nat) : List Char → Parsing (Char × List Char)
  | '\x7b' :: cs =>
    match cs.span (· != '\x7d') with
    | (digits, _ :: rest) =>
      if digits.isEmpty || digits.length > maxHexDigits then malformed
      else return (← hexChar digits, rest)
    | (_, []) => malformed
  | cs => do
    if cs.length < count then malformed
    else return (← hexChar (cs.take count), cs.drop count)

/-! ## Properties -/

/-- The characters before and after the first place where a mark stands. -/
def cutAt? (mark : List Char) : List Char → Option (List Char × List Char)
  | [] => none
  | c :: cs =>
    if (c :: cs).take mark.length == mark then some ([], (c :: cs).drop mark.length)
    else (cutAt? mark cs).map fun (before, after) => (c :: before, after)

/-- The class of a property that is given by a name, or by a kind and a value. -/
def propertyClass? (negated : Bool) (body : List Char) : Option CharClass :=
  let ofPair (negated : Bool) (kind value : List Char) : Option CharClass :=
    (Text.Property.ofKind? (String.ofList kind) (String.ofList value)).map fun p =>
      .complIf negated (.property p)
  match cutAt? ['!', '='] body with
  | some (kind, value) => ofPair (!negated) kind value
  | none =>
    match (cutAt? [':'] body).or (cutAt? ['='] body) with
    | some (kind, value) => ofPair negated kind value
    | none =>
      (Text.Property.ofName? (String.ofList body)).map fun p => .complIf negated (.property p)

/-- A property with a name of one letter, or with a name between braces. -/
def property (negated : Bool) : List Char → Parsing (CharClass × List Char)
  | [] => malformed
  | '\x7b' :: cs =>
    match cs.span (· != '\x7d') with
    | (body, _ :: rest) => do return (← required (propertyClass? negated body), rest)
    | (_, []) => malformed
  | c :: rest => do return (← required (propertyClass? negated [c]), rest)

/-! ## Escapes -/

/-- The class that a letter is a shorthand for. -/
def shorthand? (d : Dialect) (letter : Char) : Option CharClass :=
  let body :=
    match letter.toLower with
    | 'd' => some (if d.isPlain then CharClass.digits else .allDigits)
    | 's' => some (if d.isPlain then CharClass.blanks else .allBlanks)
    | 'w' => some (if d.isPlain then CharClass.wordChars else .allWordChars)
    | 'h' => if d.isPlain then none else some CharClass.hexDigits
    | _ => none
  body.map (.complIf letter.isUpper)

/-- The character that a letter stands for. -/
def letterChar? (d : Dialect) : Char → Option Char
  | 'f' => some '\x0c'
  | 'n' => some '\n'
  | 'r' => some '\r'
  | 't' => some '\t'
  | 'v' => some '\x0b'
  | 'a' => if d.isPlain then none else some '\x07'
  | 'e' => if d.isPlain then none else some '\x1b'
  | _ => none

/-- The anchor that a sign stands for outside of classes. -/
def signAnchor? : Char → Option Anchor
  | 'A' => some .textStart
  | 'z' => some .textEnd
  | 'b' => some .wordBoundary
  | 'B' => some .notWordBoundary
  | '<' => some .wordStart
  | '>' => some .wordEnd
  | _ => none

/-- A control character may be given by its letter up to where the extended notation starts. -/
def Dialect.allowsControls (d : Dialect) (left : Nat) : Bool :=
  match d with
  | .plain => true
  | .extended first => first < left

/-- The control character of a letter. -/
def controlChar (letter : Char) : Char := Char.ofNat (letter.toNat % 32)

/-- An escape after its backslash. -/
def escape (d : Dialect) (inClass : Bool) : List Char → Parsing (Escaped × List Char)
  | [] => malformed
  | c :: cs =>
    if c.isDigit then
      if d.isPlain then .error (.extended (cs.length + 1)) else malformed
    else if let some cls := shorthand? d c then .ok (.oneOf cls, cs)
    else if let some meant := letterChar? d c then .ok (.literal meant, cs)
    else if c == 'x' then (codePoint 2 cs).map fun (meant, rest) => (.literal meant, rest)
    else if c == 'u' then (codePoint 4 cs).map fun (meant, rest) => (.literal meant, rest)
    else if c == 'U' then (codePoint 8 cs).map fun (meant, rest) => (.literal meant, rest)
    else if c == 'p' || c == 'P' then
      (property (c == 'P') cs).map fun (cls, rest) => (.oneOf cls, rest)
    else if c == 'c' && d.allowsControls (cs.length + 1) then
      match cs with
      | letter :: rest =>
        if letter.isAlpha then .ok (.literal (controlChar letter), rest) else malformed
      | [] => malformed
    else
      match signAnchor? c with
      | some a =>
        if inClass then
          if c.isAlpha || d.isPlain then malformed else .ok (.literal c, cs)
        else if (c == 'b' || c == 'B') && cs.head? == some '\x7b' then malformed
        else .ok (.anchor a, cs)
      | none =>
        if c.isAlpha || (d.isPlain && c.toNat ≥ 0x80) then malformed else .ok (.literal c, cs)

end FrameTree.Pattern
