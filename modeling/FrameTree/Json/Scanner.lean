import FrameTree.Json.Numeral

/-!
# Scanning JSON text

`Node.scan` turns a text into a node and the characters left over. Each function takes the
characters from its place on and gives back those after what it read, or nothing when the text is
broken there.

**Blanks** are the space, the tab, the line feed and the carriage return.

**Surrogates.** A high surrogate escape needs a low one right after it. Passing over a string does
not mind a surrogate that stands alone, so its fault is recorded and the scan goes on.

**Termination.** Strings are scanned by recursion on the characters. Lists and objects nest, and are
scanned with an allowance of steps; every step reads a character or opens a value, so twice the
number of characters is enough.
-/

namespace FrameTree.Json

open Text (hexValue?)

/-- A blank between tokens. -/
def isBlank (c : Char) : Bool := c == ' ' || c == '\n' || c == '\t' || c == '\r'

/-- The characters from the first that is not blank. -/
def skipBlanks (cs : List Char) : List Char := cs.dropWhile isBlank

/-! ## Strings -/

/-- The number of four hexadecimal digits. -/
def hexValues? (a b c d : Char) : Option Nat := do
  return ((← hexValue? a) * 16 + (← hexValue? b)) * 256 + ((← hexValue? c) * 16 + (← hexValue? d))

def isHighSurrogate (n : Nat) : Bool := 0xD800 ≤ n && n ≤ 0xDBFF

def isLowSurrogate (n : Nat) : Bool := 0xDC00 ≤ n && n ≤ 0xDFFF

/-- The character of a pair of surrogates. -/
def surrogatePair (high low : Nat) : Char :=
  Char.ofNat (0x10000 + (high - 0xD800) * 0x400 + (low - 0xDC00))

/-- The character of an escape of one letter. -/
def unescape? : Char → Option Char
  | '"' => some '"'
  | '\\' => some '\\'
  | '/' => some '/'
  | 'b' => some '\x08'
  | 'f' => some '\x0c'
  | 'n' => some '\n'
  | 'r' => some '\r'
  | 't' => some '\t'
  | _ => none

/-- The fault of an escape that is not four hexadecimal digits: the text may end before four bytes
have been read. -/
def hexFault (cs : List Char) : TextFault :=
  if (String.ofList (cs.take 4)).utf8ByteSize < 4 then .endInString else .invalidEscape

/-- A scanned string and what follows it. -/
structure LiteralScan where
  literal : Literal
  rest : Option (List Char)

namespace LiteralScan

/-- The string is broken off by a fault. -/
def broken (fault : TextFault) : LiteralScan := ⟨⟨.error fault, some fault⟩, none⟩

/-- The string goes on after a character. -/
def push (c : Char) (s : LiteralScan) : LiteralScan :=
  { s with literal.text := s.literal.text.map fun t => (String.singleton c) ++ t }

/-- The string goes on after something that cannot be decoded. -/
def spoil (fault : TextFault) (s : LiteralScan) : LiteralScan :=
  { s with literal.text := .error fault }

/-- A high surrogate, if one came right before, is left without its low one. -/
def afterHigh (high : Option Nat) (s : LiteralScan) : LiteralScan :=
  if high.isSome then s.spoil .unfinishedSurrogate else s

end LiteralScan

/-- The rest of a string after its opening quote, or after a high surrogate. -/
def scanLiteral (high : Option Nat) : List Char → LiteralScan
  | [] => .broken .endInString
  | '"' :: cs => .afterHigh high ⟨⟨.ok "", none⟩, some cs⟩
  | ['\\'] => .broken .endInString
  | '\\' :: 'u' :: a :: b :: c :: d :: cs =>
    match hexValues? a b c d, high with
    | none, _ => .broken .invalidEscape
    | some n, some h =>
      if isLowSurrogate n then (scanLiteral none cs).push (surrogatePair h n)
      else (scanLiteral none cs).spoil .loneSurrogate
    | some n, none =>
      if isHighSurrogate n then scanLiteral (some n) cs
      else if isLowSurrogate n then (scanLiteral none cs).spoil .loneSurrogate
      else (scanLiteral none cs).push (Char.ofNat n)
  | '\\' :: 'u' :: cs => .broken (hexFault cs)
  | '\\' :: e :: cs =>
    .afterHigh high <|
      match unescape? e with
      | some c => (scanLiteral none cs).push c
      | none => .broken .invalidEscape
  | c :: cs =>
    .afterHigh high <|
      if c.toNat < 0x20 then .broken .controlCharacter else (scanLiteral none cs).push c

/-! ## Words and numbers -/

/-- The rest of a word after its first letter: what follows it, or does the text end in it? -/
def scanWord : (letters cs : List Char) → Except Bool (List Char)
  | [], cs => .ok cs
  | _ :: _, [] => .error true
  | l :: ls, c :: cs => if c = l then scanWord ls cs else .error false

/-- The digits at the front, at least one of them: or does the text end there? -/
def scanDigits (cs : List Char) : Except Bool (List Char × List Char) :=
  match cs with
  | [] => .error true
  | c :: _ => if c.isDigit then .ok (cs.span Char.isDigit) else .error false

/-- The digits before the point; a zero stands alone. -/
def scanWhole : List Char → Except Bool (List Char × List Char)
  | '0' :: cs =>
    match cs with
    | c :: _ => if c.isDigit then .error false else .ok (['0'], cs)
    | [] => .ok (['0'], [])
  | cs => scanDigits cs

/-- The digits after the point, if there is one. -/
def scanFraction : List Char → Except Bool (Option (List Char) × List Char)
  | '.' :: cs => do
    let (ds, rest) ← scanDigits cs
    return (some ds, rest)
  | cs => .ok (none, cs)

/-- The exponent with its sign, if there is one. -/
def scanExponent : List Char → Except Bool (Option (Bool × List Char) × List Char)
  | c :: cs =>
    if c = 'e' || c = 'E' then do
      let (down, cs) :=
        match cs with
        | '-' :: cs => (true, cs)
        | '+' :: cs => (false, cs)
        | cs => (false, cs)
      let (ds, rest) ← scanDigits cs
      return (some (down, ds), rest)
    else .ok (none, c :: cs)
  | [] => .ok (none, [])

/-- A number, sign included: or does the text end in it? -/
def scanNumeral (cs : List Char) : Except Bool (Numeral × List Char) := do
  let (negative, cs) :=
    match cs with
    | '-' :: cs => (true, cs)
    | cs => (false, cs)
  let (whole, cs) ← scanWhole cs
  let (fraction, cs) ← scanFraction cs
  let (exponent, cs) ← scanExponent cs
  return (⟨negative, whole, fraction, exponent⟩, cs)

/-! ## Values -/

namespace Node

/-- A word that starts like a known one. -/
def ofWord (value : Node) : Except Bool (List Char) → Node × Option (List Char)
  | .ok rest => (value, some rest)
  | .error atEnd => (.brokenWord atEnd, none)

/-- A number. -/
def ofNumeral : Except Bool (Numeral × List Char) → Node × Option (List Char)
  | .ok (n, rest) => (.number n, some rest)
  | .error atEnd => (.brokenNumber atEnd, none)

mutual

/-- A value, after any blanks. -/
def scanValue : (steps : Nat) → List Char → Node × Option (List Char)
  | 0, _ => (.blocked .endInValue, none)
  | steps + 1, cs =>
    match skipBlanks cs with
    | [] => (.blocked .endInValue, none)
    | c :: cs =>
      if c = '"' then
        let s := scanLiteral none cs
        (.string s.literal, s.rest)
      else if c = '[' then
        match skipBlanks cs with
        | [] => (.array [] .endOfText, none)
        | ']' :: rest => (.array [] .closed, some rest)
        | cs =>
          let (items, stop, rest) := scanItems steps cs
          (.array items stop, rest)
      else if c = '{' then
        match skipBlanks cs with
        | [] => (.object [] .endOfText, none)
        | '}' :: rest => (.object [] .closed, some rest)
        | '"' :: cs =>
          let (members, stop, rest) := scanMembers steps cs
          (.object members stop, rest)
        | _ => (.keyless, none)
      else if c = 't' then ofWord (.bool true) (scanWord ['r', 'u', 'e'] cs)
      else if c = 'f' then ofWord (.bool false) (scanWord ['a', 'l', 's', 'e'] cs)
      else if c = 'n' then ofWord .null (scanWord ['u', 'l', 'l'] cs)
      else if c = '-' || c.isDigit then ofNumeral (scanNumeral (c :: cs))
      else (.blocked .expectedValue, none)

/-- The items of a list from one of them on. -/
def scanItems : (steps : Nat) → List Char → List Node × Stop × Option (List Char)
  | 0, _ => ([], .endOfText, none)
  | steps + 1, cs =>
    match scanValue steps cs with
    | (x, none) => ([x], .junk, none)
    | (x, some rest) =>
      match skipBlanks rest with
      | [] => ([x], .endOfText, none)
      | ']' :: rest => ([x], .closed, some rest)
      | ',' :: rest =>
        match skipBlanks rest with
        | [] => ([x], .endAfterComma, none)
        | ']' :: _ => ([x], .closedAfterComma, none)
        | rest =>
          let (xs, stop, rest) := scanItems steps rest
          (x :: xs, stop, rest)
      | _ => ([x], .junk, none)

/-- The members of an object from the name of one of them on, after its opening quote. -/
def scanMembers : (steps : Nat) → List Char → List (Literal × Node) × Stop × Option (List Char)
  | 0, _ => ([], .endOfText, none)
  | steps + 1, cs =>
    let name := scanLiteral none cs
    match name.rest with
    | none => ([(name.literal, .blocked .endInString)], .junk, none)
    | some rest =>
      match skipBlanks rest with
      | [] => ([(name.literal, .blocked .endInObject)], .junk, none)
      | ':' :: rest =>
        match scanValue steps rest with
        | (x, none) => ([(name.literal, x)], .junk, none)
        | (x, some rest) =>
          match skipBlanks rest with
          | [] => ([(name.literal, x)], .endOfText, none)
          | '}' :: rest => ([(name.literal, x)], .closed, some rest)
          | ',' :: rest =>
            match skipBlanks rest with
            | [] => ([(name.literal, x)], .endAfterComma, none)
            | '}' :: _ => ([(name.literal, x)], .closedAfterComma, none)
            | '"' :: rest =>
              let (ms, stop, rest) := scanMembers steps rest
              ((name.literal, x) :: ms, stop, rest)
            | _ => ([(name.literal, x)], .strayKey, none)
          | _ => ([(name.literal, x)], .junk, none)
      | _ => ([(name.literal, .blocked .expectedColon)], .junk, none)

end

/-- The value at the front of a text and what follows it. -/
def scan (text : String) : Node × Option (List Char) :=
  let cs := text.toList
  scanValue (2 * cs.length + 2) cs

end Node

end FrameTree.Json
