import FrameTree.Pattern.Escape

/-!
# Classes in brackets

Between brackets stand characters, ranges, escapes, named classes and further brackets, which are
united; `&&`, `--` and `~~` take the common part, the difference and the symmetric difference of
what stands before and after them, from left to right. A leading `^` takes the complement of all of
it. Hyphens at the front, a hyphen before the closing bracket and a closing bracket at the front
stand for themselves.
-/

namespace FrameTree.Pattern

/-- The class of an item that is not the end of a range. -/
def Escaped.asClass : Escaped → Parsing CharClass
  | .literal c => .ok (.single c)
  | .oneOf cls => .ok cls
  | .anchor _ => malformed

/-- The range between two items. -/
def rangeOf : Escaped → Escaped → Parsing CharClass
  | .literal low, .literal high => if low ≤ high then .ok (.range low high) else malformed
  | _, _ => malformed

/-- A character or an escape. -/
def bracketItem (d : Dialect) : List Char → Parsing (Escaped × List Char)
  | [] => malformed
  | '\\' :: cs => escape d true cs
  | c :: cs => .ok (.literal c, cs)

/-- An item or a range. -/
def bracketRange (d : Dialect) (cs : List Char) : Parsing (CharClass × List Char) := do
  let (low, rest) ← bracketItem d cs
  match rest with
  | '-' :: ']' :: _ | '-' :: '-' :: _ => return (← low.asClass, rest)
  | '-' :: rest =>
    let (high, rest) ← bracketItem d rest
    return (← rangeOf low high, rest)
  | rest => return (← low.asClass, rest)

/-- A named class after its opening bracket. -/
def namedClass? : List Char → Option (CharClass × List Char)
  | ':' :: cs =>
    let (negated, cs) :=
      match cs with
      | '^' :: cs => (true, cs)
      | cs => (false, cs)
    match cs.span (· != ':') with
    | (name, ':' :: ']' :: rest) =>
      (CharClass.named? (String.ofList name)).map fun cls => (.complIf negated cls, rest)
    | _ => none
  | _ => none

mutual

/-- A class after its opening bracket. -/
def bracket (d : Dialect) : (fuel : Nat) → List Char → Parsing (CharClass × List Char)
  | 0, _ => malformed
  | fuel + 1, cs => do
    let (negated, cs) :=
      match cs with
      | '^' :: cs => (true, cs)
      | cs => (false, cs)
    let (cls, rest) ←
      match cs with
      | ']' :: cs => bracketItems d fuel id (.single ']') cs
      | '-' :: cs => bracketItems d fuel id (.single '-') (cs.dropWhile (· == '-'))
      | cs => bracketItems d fuel id .empty cs
    return (.complIf negated cls, rest)

/-- The items up to the closing bracket; `finish` combines what they unite to with what stands
before the last operator. -/
def bracketItems (d : Dialect) : (fuel : Nat) → (finish : CharClass → CharClass) → CharClass →
    List Char → Parsing (CharClass × List Char)
  | 0, _, _, _ => malformed
  | _ + 1, _, _, [] => malformed
  | _ + 1, finish, found, ']' :: rest => .ok (finish found, rest)
  | fuel + 1, finish, found, '&' :: '&' :: rest =>
    bracketItems d fuel (.inter (finish found)) .empty rest
  | fuel + 1, finish, found, '-' :: '-' :: rest =>
    bracketItems d fuel (.diff (finish found)) .empty rest
  | fuel + 1, finish, found, '~' :: '~' :: rest =>
    bracketItems d fuel (.symmDiff (finish found)) .empty rest
  | fuel + 1, finish, found, '[' :: rest =>
    match namedClass? rest with
    | some (cls, rest) => bracketItems d fuel finish (.union found cls) rest
    | none => do
      let (cls, rest) ← bracket d fuel rest
      bracketItems d fuel finish (.union found cls) rest
  | fuel + 1, finish, found, cs => do
    let (cls, rest) ← bracketRange d cs
    bracketItems d fuel finish (.union found cls) rest

end

/-- A class after its opening bracket. Every step takes a character or opens a bracket, which does
too. -/
def bracketClass (d : Dialect) (cs : List Char) : Parsing (CharClass × List Char) :=
  bracket d (2 * cs.length + 2) cs

end FrameTree.Pattern
