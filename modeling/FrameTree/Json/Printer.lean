import FrameTree.Json.Value

/-!
# Printing JSON

**Strings.** A quote, a backslash and the characters below U+0020 are escaped, the common ones by a
letter and the rest by four hexadecimal digits. Everything else is written as it is.

**Compact text** has no blanks. **Pretty text** puts every item and member on a line of its own, two
blanks deeper than its container; an empty list is `[]` and an empty object two braces. Members are
printed in the order in which the value lists them.
-/

namespace FrameTree.Json

/-! ## Strings -/

/-- The lower-case hexadecimal digit. -/
def hexDigit (d : Nat) : Char :=
  if d < 10 then Char.ofNat ('0'.toNat + d) else Char.ofNat ('a'.toNat + (d - 10))

/-- A character inside a string. -/
def escapeChar (c : Char) : List Char :=
  if c == '"' then ['\\', '"']
  else if c == '\\' then ['\\', '\\']
  else if c == '\x08' then ['\\', 'b']
  else if c == '\x0c' then ['\\', 'f']
  else if c == '\n' then ['\\', 'n']
  else if c == '\r' then ['\\', 'r']
  else if c == '\t' then ['\\', 't']
  else if c.toNat < 0x20 then
    ['\\', 'u', '0', '0', hexDigit (c.toNat / 16), hexDigit (c.toNat % 16)]
  else [c]

/-- A string with its quotes. -/
def quote (s : String) : List Char := '"' :: (s.toList.flatMap escapeChar ++ ['"'])

/-! ## Compact text -/

mutual

/-- A value without blanks. -/
def compactChars : Json → List Char
  | .null => ['n', 'u', 'l', 'l']
  | .bool true => ['t', 'r', 'u', 'e']
  | .bool false => ['f', 'a', 'l', 's', 'e']
  | .number n => n.text
  | .string s => quote s
  | .array [] => ['[', ']']
  | .array (x :: xs) => '[' :: (compactChars x ++ compactItems xs ++ [']'])
  | .object [] => ['{', '}']
  | .object ((n, v) :: ms) =>
    '{' :: (quote n ++ ':' :: compactChars v ++ compactMembers ms ++ ['}'])

/-- The items after the first. -/
def compactItems : List Json → List Char
  | [] => []
  | x :: xs => ',' :: (compactChars x ++ compactItems xs)

/-- The members after the first. -/
def compactMembers : List (String × Json) → List Char
  | [] => []
  | (n, v) :: ms => ',' :: (quote n ++ ':' :: compactChars v ++ compactMembers ms)

end

/-- The compact text. -/
def compact (j : Json) : String := String.ofList j.compactChars

/-! ## Pretty text -/

/-- A line break and the blanks of a level. -/
def newline (level : Nat) : List Char := '\n' :: List.replicate (2 * level) ' '

mutual

/-- A value whose container stands at `level`. -/
def prettyChars (level : Nat) : Json → List Char
  | .null => ['n', 'u', 'l', 'l']
  | .bool true => ['t', 'r', 'u', 'e']
  | .bool false => ['f', 'a', 'l', 's', 'e']
  | .number n => n.text
  | .string s => quote s
  | .array [] => ['[', ']']
  | .array (x :: xs) =>
    '[' :: (newline (level + 1) ++ prettyChars (level + 1) x ++ prettyItems (level + 1) xs
      ++ newline level ++ [']'])
  | .object [] => ['{', '}']
  | .object ((n, v) :: ms) =>
    '{' :: (newline (level + 1) ++ quote n ++ ':' :: ' ' :: prettyChars (level + 1) v
      ++ prettyMembers (level + 1) ms ++ newline level ++ ['}'])

/-- The items after the first. -/
def prettyItems (level : Nat) : List Json → List Char
  | [] => []
  | x :: xs => ',' :: (newline level ++ prettyChars level x ++ prettyItems level xs)

/-- The members after the first. -/
def prettyMembers (level : Nat) : List (String × Json) → List Char
  | [] => []
  | (n, v) :: ms =>
    ',' :: (newline level ++ quote n ++ ':' :: ' ' :: prettyChars level v ++ prettyMembers level ms)

end

/-- The pretty text. -/
def pretty (j : Json) : String := String.ofList (j.prettyChars 0)

end FrameTree.Json
