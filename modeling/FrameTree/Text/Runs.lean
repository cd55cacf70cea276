import FrameTree.Text.Digits

/-!
# Runs of characters

A property of characters is written down as runs: consecutive characters with the same value. The
text of a table lists the runs from the first character on, each with its length in decimal.

**Look-up** (`Runs.get?`) finds the last run that begins at or before a character, by halving.
-/

namespace FrameTree.Text

/-- The runs of a property: where each begins, in increasing order, and the value of its
characters. -/
structure Runs (α : Type) where
  starts : Array (Nat × α)
deriving Repr, Inhabited

namespace Runs

variable {α : Type}

/-- The runs of the given values and lengths, one after the other. -/
def ofLengths (runs : List (α × Nat)) : Runs α :=
  ⟨(runs.foldl (fun (here, starts) (value, length) => (here + length, starts.push (here, value)))
    ((0, #[]) : Nat × Array (Nat × α))).2⟩

/-- The value of the last entry of `starts` from `low` to before `high` that begins at or before
`n`. -/
def search (starts : Array (Nat × α)) (n low high : Nat) : Option α :=
  if low + 1 < high then
    let middle := (low + high) / 2
    match starts[middle]? with
    | some (start, _) =>
      if start ≤ n then search starts n middle high else search starts n low middle
    | none => none
  else
    match starts[low]? with
    | some (start, value) => if start ≤ n then some value else none
    | none => none
termination_by high - low

/-- The value of the character with a code point. -/
def get? (r : Runs α) (n : Nat) : Option α := search r.starts n 0 r.starts.size

end Runs

/-! ## Texts of tables -/

/-- The entries of a table, which stand between blanks and line feeds. -/
def entries (table : String) : List String :=
  ((table.splitOn "\n").flatMap (·.splitOn " ")).filter (!·.isEmpty)

/-- Runs whose entries are a letter code and a length. Codes without a value are left out, with the
runs after them moved up, so every code of a table has to have one. -/
def codedRuns {α : Type} (value? : String → Option α) (table : String) : Runs α :=
  .ofLengths <| (entries table).filterMap fun entry =>
    let (code, length) := entry.toList.span Char.isAlpha
    (value? (String.ofList code)).map (·, decimalValue length)

/-- Runs of characters without and with a property in turn, the first one without it, as are the
characters after the last. -/
def alternatingRuns (table : String) : Runs Bool :=
  .ofLengths <|
    ((entries table).zipIdx.map fun (entry, i) => (i % 2 == 1, decimalValue entry.toList))
      ++ [(false, 1)]

/-- The character has the property. -/
def Runs.holds (r : Runs Bool) (c : Char) : Bool := (r.get? c.toNat).getD false

end FrameTree.Text
