import FrameTree.Text.Visible

/-!
# Text quoted inside a message

A text that a message reports stands between quotes. A quote, a backslash and the common controls
are escaped by a letter, the null character by a zero, and any other character that would not show
by itself by its code point in braces, in lower-case hexadecimal without leading zeros.
-/

namespace FrameTree.Text

/-- The code point in lower-case hexadecimal. -/
def codePoint (c : Char) : List Char := Nat.toDigits 16 c.toNat

/-- A character between the quotes. -/
def quoteChar (c : Char) : List Char :=
  if c == '\x00' then ['\\', '0']
  else if c == '\t' then ['\\', 't']
  else if c == '\r' then ['\\', 'r']
  else if c == '\n' then ['\\', 'n']
  else if c == '\\' then ['\\', '\\']
  else if c == '"' then ['\\', '"']
  else if isVisible c then [c]
  else ['\\', 'u', '{'] ++ codePoint c ++ ['}']

/-- The text between quotes. -/
def quoted (s : String) : String := String.ofList ('"' :: (s.toList.flatMap quoteChar ++ ['"']))

end FrameTree.Text
