import FrameTree.Json.Printer
import FrameTree.Json.Reader
import FrameTree.Proofs.Numerals
import Mathlib.Data.List.Basic

/-!
# Scanning what was printed

The text of a value, compact or on lines of its own, scans to one node and leaves nothing over
(`Json.Node.scan_chars`).

**Layouts** (`Json.Layout`). The two printers differ only in their blanks, so the scan is followed
once, over any layout.

**Strings.** Each character is escaped to a text that the scan takes back to the character
(`Json.scanLiteral_escapeChar`).

**Numbers** (`Json.Legible`). All numbers of the value have to be legible, each with the text of one
numeral.

**Steps.** The scanner goes down with a number of steps left. Each value, item and member takes a
character for each step, so the length of the text is enough.

Main results: `Json.Node.scan_pretty` and `Json.Node.scan_compact`.
-/

namespace FrameTree.Json

/-! ## Strings -/

theorem hexValues?_hexDigit {n : Nat} (h : n < 32) :
    hexValues? '0' '0' (hexDigit (n / 16)) (hexDigit (n % 16)) = some n := by
  have hall : ∀ n < 32,
      hexValues? '0' '0' (hexDigit (n / 16)) (hexDigit (n % 16)) = some n := by decide
  exact hall n h

theorem scanLiteral_escapeChar (c : Char) (cs : List Char) :
    scanLiteral none (escapeChar c ++ cs) = (scanLiteral none cs).push c := by
  by_cases hc : c ∈ ['"', '\\', '\x08', '\x0c', '\n', '\r', '\t']
  · -- The characters that are escaped by a letter.
    simp only [List.mem_cons, List.not_mem_nil, or_false] at hc
    rcases hc with rfl | rfl | rfl | rfl | rfl | rfl | rfl <;> rfl
  · simp only [List.mem_cons, List.not_mem_nil, or_false, not_or] at hc
    obtain ⟨hquote, hslash, hb, hf, hn, hr, ht⟩ := hc
    have hescape : escapeChar c =
        if c.toNat < 0x20 then
          ['\\', 'u', '0', '0', hexDigit (c.toNat / 16), hexDigit (c.toNat % 16)]
        else [c] := by
      simp only [escapeChar, beq_eq_false_iff_ne.2 hquote, beq_eq_false_iff_ne.2 hslash,
        beq_eq_false_iff_ne.2 hb, beq_eq_false_iff_ne.2 hf, beq_eq_false_iff_ne.2 hn,
        beq_eq_false_iff_ne.2 hr, beq_eq_false_iff_ne.2 ht, Bool.false_eq_true, if_false]
    rw [hescape]
    by_cases hlow : c.toNat < 0x20
    · have hhigh : isHighSurrogate c.toNat = false := by
        rw [isHighSurrogate, Bool.and_eq_false_iff]
        exact .inl (decide_eq_false (by omega))
      have hlow' : isLowSurrogate c.toNat = false := by
        rw [isLowSurrogate, Bool.and_eq_false_iff]
        exact .inl (decide_eq_false (by omega))
      rw [if_pos hlow]
      refine (scanLiteral.eq_6 _ _ _ _ _ _ (hexValues?_hexDigit hlow)).trans ?_
      rw [hhigh, hlow', Char.ofNat_toNat]
      rfl
    · rw [if_neg hlow, List.singleton_append, scanLiteral, if_neg hlow]
      · rfl
      all_goals simp [hquote, hslash]

theorem quote_append (s : String) (cs : List Char) :
    quote s ++ cs = '"' :: (s.toList.flatMap escapeChar ++ '"' :: cs) := by
  rw [quote, List.cons_append, List.append_assoc]
  rfl

/-- A printed string scans as the string. -/
theorem scanLiteral_quote (s : String) (rest : List Char) :
    scanLiteral none (s.toList.flatMap escapeChar ++ '"' :: rest) =
      ⟨⟨.ok s, none⟩, some rest⟩ := by
  have hchars (cs : List Char) : scanLiteral none (cs.flatMap escapeChar ++ '"' :: rest) =
      ⟨⟨.ok (String.ofList cs), none⟩, some rest⟩ := by
    induction cs with
    | nil => rfl
    | cons c cs ih =>
      rw [List.flatMap_cons, List.append_assoc, scanLiteral_escapeChar, ih]
      show (⟨⟨.ok (String.singleton c ++ String.ofList cs), none⟩, some rest⟩ : LiteralScan) = _
      rw [← String.ofList_cons]
  rw [hchars, String.ofList_toList]

/-! ## Layouts -/

/-- The blanks of a text: before an item or a member at a level, and after a colon. -/
structure Layout where
  gap : Nat → List Char
  space : List Char
  gap_blank : ∀ level, ∀ c ∈ gap level, isBlank c = true
  space_blank : ∀ c ∈ space, isBlank c = true

namespace Layout

/-- Without blanks. -/
def compact : Layout where
  gap _ := []
  space := []
  gap_blank _ _ h := nomatch h
  space_blank _ h := nomatch h

/-- Items and members on lines of their own. -/
def pretty : Layout where
  gap := newline
  space := [' ']
  gap_blank level c hc := by
    rw [newline] at hc
    rcases List.mem_cons.1 hc with rfl | hc
    · rfl
    · rw [List.eq_of_mem_replicate hc]
      rfl
  space_blank c hc := by
    rw [List.mem_singleton.1 hc]
    rfl

end Layout

mutual

/-- The text of a value whose container stands at `level`. -/
def Layout.chars (L : Layout) (level : Nat) : Json → List Char
  | .null => ['n', 'u', 'l', 'l']
  | .bool true => ['t', 'r', 'u', 'e']
  | .bool false => ['f', 'a', 'l', 's', 'e']
  | .number n => n.text
  | .string s => quote s
  | .array [] => ['[', ']']
  | .array (x :: xs) =>
    '[' :: (L.gap (level + 1) ++ (L.chars (level + 1) x ++ L.itemChars level xs))
  | .object [] => ['{', '}']
  | .object ((n, v) :: ms) =>
    '{' :: (L.gap (level + 1) ++
      (quote n ++ ':' :: (L.space ++ (L.chars (level + 1) v ++ L.memberChars level ms))))

/-- The items after the first of a list at `level`, and its closing bracket. -/
def Layout.itemChars (L : Layout) (level : Nat) : List Json → List Char
  | [] => L.gap level ++ [']']
  | x :: xs => ',' :: (L.gap (level + 1) ++ (L.chars (level + 1) x ++ L.itemChars level xs))

/-- The members after the first of an object at `level`, and its closing bracket. -/
def Layout.memberChars (L : Layout) (level : Nat) : List (String × Json) → List Char
  | [] => L.gap level ++ ['}']
  | (n, v) :: ms =>
    ',' :: (L.gap (level + 1) ++
      (quote n ++ ':' :: (L.space ++ (L.chars (level + 1) v ++ L.memberChars level ms))))

end

mutual

theorem prettyChars_eq (level : Nat) : ∀ j, prettyChars level j = Layout.pretty.chars level j
  | .null => rfl
  | .bool true => rfl
  | .bool false => rfl
  | .number n => rfl
  | .string s => rfl
  | .array [] => rfl
  | .array (x :: xs) => by
    rw [prettyChars, Layout.chars, prettyChars_eq, ← prettyItems_eq]
    simp [Layout.pretty]
  | .object [] => rfl
  | .object ((n, v) :: ms) => by
    rw [prettyChars, Layout.chars, prettyChars_eq, ← prettyMembers_eq]
    simp [Layout.pretty]

theorem prettyItems_eq (level : Nat) : ∀ xs,
    prettyItems (level + 1) xs ++ newline level ++ [']'] = Layout.pretty.itemChars level xs
  | [] => rfl
  | x :: xs => by
    rw [prettyItems, Layout.itemChars, prettyChars_eq, ← prettyItems_eq]
    simp [Layout.pretty]

theorem prettyMembers_eq (level : Nat) : ∀ ms,
    prettyMembers (level + 1) ms ++ newline level ++ ['}'] = Layout.pretty.memberChars level ms
  | [] => rfl
  | (n, v) :: ms => by
    rw [prettyMembers, Layout.memberChars, prettyChars_eq, ← prettyMembers_eq]
    simp [Layout.pretty]

end

mutual

theorem compactChars_eq (level : Nat) : ∀ j, compactChars j = Layout.compact.chars level j
  | .null => rfl
  | .bool true => rfl
  | .bool false => rfl
  | .number n => rfl
  | .string s => rfl
  | .array [] => rfl
  | .array (x :: xs) => by
    rw [compactChars, Layout.chars, compactChars_eq (level + 1), ← compactItems_eq]
    simp [Layout.compact]
  | .object [] => rfl
  | .object ((n, v) :: ms) => by
    rw [compactChars, Layout.chars, compactChars_eq (level + 1), ← compactMembers_eq]
    simp [Layout.compact]

theorem compactItems_eq (level : Nat) : ∀ xs,
    compactItems xs ++ [']'] = Layout.compact.itemChars level xs
  | [] => rfl
  | x :: xs => by
    rw [compactItems, Layout.itemChars, compactChars_eq (level + 1), ← compactItems_eq]
    simp [Layout.compact]

theorem compactMembers_eq (level : Nat) : ∀ ms,
    compactMembers ms ++ ['}'] = Layout.compact.memberChars level ms
  | [] => rfl
  | (n, v) :: ms => by
    rw [compactMembers, Layout.memberChars, compactChars_eq (level + 1), ← compactMembers_eq]
    simp [Layout.compact]

end

/-! ## Values -/

mutual

/-- The numbers in a value. -/
def numbers : Json → List Number
  | .number n => [n]
  | .array xs => itemNumbers xs
  | .object ms => memberNumbers ms
  | _ => []

def itemNumbers : List Json → List Number
  | [] => []
  | x :: xs => numbers x ++ itemNumbers xs

def memberNumbers : List (String × Json) → List Number
  | [] => []
  | (_, v) :: ms => numbers v ++ memberNumbers ms

end

theorem forall_mem_itemNumbers {P : Number → Prop} {xs : List Json} :
    (∀ n ∈ itemNumbers xs, P n) ↔ ∀ x ∈ xs, ∀ n ∈ x.numbers, P n := by
  induction xs with
  | nil => simp [itemNumbers]
  | cons x xs ih => rw [itemNumbers, List.forall_mem_append, List.forall_mem_cons, ih]

theorem forall_mem_memberNumbers {P : Number → Prop} {ms : List (String × Json)} :
    (∀ n ∈ memberNumbers ms, P n) ↔ ∀ m ∈ ms, ∀ n ∈ m.2.numbers, P n := by
  induction ms with
  | nil => simp [memberNumbers]
  | cons m ms ih => rw [memberNumbers, List.forall_mem_append, List.forall_mem_cons, ih]

/-- The text of every number in the value is one numeral. -/
def Legible (j : Json) : Prop := ∀ n ∈ j.numbers, n.Legible

theorem legible_array_iff {xs : List Json} : (array xs).Legible ↔ ∀ x ∈ xs, x.Legible :=
  forall_mem_itemNumbers

theorem legible_object_iff {ms : List (String × Json)} :
    (object ms).Legible ↔ ∀ m ∈ ms, m.2.Legible :=
  forall_mem_memberNumbers

/-- A string without a fault. -/
def Literal.ofString (s : String) : Literal := ⟨.ok s, none⟩

namespace Node

mutual

/-- The node of a text that writes the value. -/
def ofJson : Json → Node
  | .null => .null
  | .bool b => .bool b
  | .number n => .number n.numeral
  | .string s => .string (.ofString s)
  | .array xs => .array (ofItems xs) .closed
  | .object ms => .object (ofMembers ms) .closed

def ofItems : List Json → List Node
  | [] => []
  | x :: xs => ofJson x :: ofItems xs

def ofMembers : List (String × Json) → List (Literal × Node)
  | [] => []
  | (n, v) :: ms => (.ofString n, ofJson v) :: ofMembers ms

end

/-! ### Blanks -/

theorem skipBlanks_append {blanks : List Char} (h : ∀ c ∈ blanks, isBlank c = true)
    (cs : List Char) : skipBlanks (blanks ++ cs) = skipBlanks cs :=
  List.dropWhile_append_of_pos h

theorem skipBlanks_cons {c : Char} (h : isBlank c = false) (cs : List Char) :
    skipBlanks (c :: cs) = c :: cs :=
  List.dropWhile_cons_of_neg (by rw [h]; exact Bool.false_ne_true)

/-- Blanks before a value make no difference. -/
theorem scanValue_append (steps : Nat) {blanks : List Char} (h : ∀ c ∈ blanks, isBlank c = true)
    (cs : List Char) : scanValue steps (blanks ++ cs) = scanValue steps cs := by
  cases steps with
  | zero => rw [scanValue, scanValue]
  | succ steps => rw [scanValue, skipBlanks_append h, scanValue]

/-- A value or the items of a list go on here. -/
def Opens (cs : List Char) : Prop := ∃ c rest, cs = c :: rest ∧ isBlank c = false ∧ c ≠ ']'

theorem Opens.append {cs : List Char} (h : Opens cs) (rest : List Char) : Opens (cs ++ rest) := by
  obtain ⟨c, cs, rfl, hc⟩ := h
  exact ⟨c, cs ++ rest, rfl, hc⟩

theorem Opens.length_pos {cs : List Char} (h : Opens cs) : 0 < cs.length := by
  obtain ⟨c, cs, rfl, -⟩ := h
  exact Nat.succ_pos _

section

variable (L : Layout) (level : Nat)

theorem length_itemChars_pos (xs : List Json) : 0 < (L.itemChars level xs).length := by
  cases xs with
  | nil =>
    rw [Layout.itemChars, List.length_append]
    exact Nat.succ_pos _
  | cons x xs => exact Nat.succ_pos _

theorem length_memberChars_pos (ms : List (String × Json)) :
    0 < (L.memberChars level ms).length := by
  cases ms with
  | nil =>
    rw [Layout.memberChars, List.length_append]
    exact Nat.succ_pos _
  | cons m ms => exact Nat.succ_pos _

theorem delimited_itemChars (xs : List Json) (rest : List Char) :
    Delimited (L.itemChars level xs ++ rest) := by
  cases xs with
  | nil =>
    rw [Layout.itemChars, List.append_assoc]
    cases hgap : L.gap level with
    | nil => exact .of_head _ (.inr (.inr (.inl rfl)))
    | cons c cs => exact .of_head _ (.inl (L.gap_blank level c (hgap ▸ List.mem_cons_self)))
  | cons x xs => exact .of_head _ (.inr (.inl rfl))

theorem delimited_memberChars (ms : List (String × Json)) (rest : List Char) :
    Delimited (L.memberChars level ms ++ rest) := by
  cases ms with
  | nil =>
    rw [Layout.memberChars, List.append_assoc]
    cases hgap : L.gap level with
    | nil => exact .of_head _ (.inr (.inr (.inr rfl)))
    | cons c cs => exact .of_head _ (.inl (L.gap_blank level c (hgap ▸ List.mem_cons_self)))
  | cons m ms => exact .of_head _ (.inr (.inl rfl))

/-- The first character of a number is neither a blank nor what another value starts with. -/
theorem numeral_head {c : Char} (h : c = '-' ∨ c.isDigit = true) :
    isBlank c = false ∧ c ∉ ['"', '[', ']', '{', 't', 'f', 'n'] := by
  constructor
  · rw [← Bool.not_eq_true]
    intro hblank
    simp only [isBlank, Bool.or_eq_true, beq_iff_eq, or_assoc] at hblank
    rcases hblank with rfl | rfl | rfl | rfl <;> exact absurd h (by decide)
  · intro hmem
    simp only [List.mem_cons, List.not_mem_nil, or_false] at hmem
    rcases hmem with rfl | rfl | rfl | rfl | rfl | rfl | rfl <;> exact absurd h (by decide)

/-- A value starts with a character that is neither a blank nor a closing bracket. -/
theorem opens_chars {j : Json} (hj : j.Legible) : Opens (L.chars level j) := by
  cases j with
  | null => exact ⟨'n', _, rfl, by decide⟩
  | bool b => cases b <;> exact ⟨_, _, rfl, by decide⟩
  | number n =>
    obtain ⟨c, cs, htext, hc⟩ := (hj n (List.mem_singleton.2 rfl)).head
    obtain ⟨hblank, hother⟩ := numeral_head hc
    exact ⟨c, cs, htext, hblank, fun hclose => hother (by simp [hclose])⟩
  | string s => exact ⟨'"', _, rfl, by decide⟩
  | array xs => cases xs <;> exact ⟨'[', _, rfl, by decide⟩
  | object ms =>
    cases ms with
    | nil => exact ⟨'{', _, rfl, by decide⟩
    | cons m ms => exact ⟨'{', _, rfl, by decide⟩

end

/-! ### The scan of a printed value -/

theorem scanValue_quote (s : String) (steps : Nat) (rest : List Char) :
    scanValue (steps + 1) (quote s ++ rest) = (.string (.ofString s), some rest) := by
  rw [quote_append]
  show (Node.string (scanLiteral none _).literal, (scanLiteral none _).rest) = _
  rw [scanLiteral_quote]
  rfl

theorem scanValue_number {n : Number} (hn : n.Legible) (steps : Nat) {rest : List Char}
    (hrest : Delimited rest) :
    scanValue (steps + 1) (n.text ++ rest) = (.number n.numeral, some rest) := by
  obtain ⟨c, cs, htext, hc⟩ := hn.head
  obtain ⟨hblank, hother⟩ := numeral_head hc
  simp only [List.mem_cons, List.not_mem_nil, or_false, not_or] at hother
  obtain ⟨hquote, hlist, -, hobject, ht, hf, hnull⟩ := hother
  have hscan := hn.scans rest hrest
  have hstart : (decide (c = '-') || c.isDigit) = true := by
    rw [Bool.or_eq_true, decide_eq_true_iff]
    exact hc
  rw [htext, List.cons_append] at hscan ⊢
  rw [scanValue, skipBlanks_cons hblank]
  dsimp only
  rw [if_neg hquote, if_neg hlist, if_neg hobject, if_neg ht, if_neg hf, if_neg hnull,
    if_pos hstart, hscan]
  rfl

/-- A list with items. -/
theorem scanValue_list (steps : Nat) {blanks cs : List Char}
    (hblanks : ∀ d ∈ blanks, isBlank d = true) (hcs : Opens cs) :
    scanValue (steps + 1) ('[' :: (blanks ++ cs)) =
      (.array (scanItems steps cs).1 (scanItems steps cs).2.1, (scanItems steps cs).2.2) := by
  obtain ⟨c, cs, rfl, hblank, hclose⟩ := hcs
  have hskip : skipBlanks (blanks ++ c :: cs) = c :: cs := by
    rw [skipBlanks_append hblanks, skipBlanks_cons hblank]
  rw [scanValue, skipBlanks_cons (by decide)]
  dsimp only
  rw [if_neg (by decide), if_pos rfl, hskip]
  split
  · rename_i heq
    exact absurd heq (List.cons_ne_nil c cs)
  · rename_i heq
    exact absurd (List.cons.inj heq).1 hclose
  · rfl

/-- An object with members. -/
theorem scanValue_object (steps : Nat) {blanks : List Char}
    (hblanks : ∀ d ∈ blanks, isBlank d = true) (cs : List Char) :
    scanValue (steps + 1) ('{' :: (blanks ++ '"' :: cs)) =
      (.object (scanMembers steps cs).1 (scanMembers steps cs).2.1,
        (scanMembers steps cs).2.2) := by
  have hskip : skipBlanks (blanks ++ '"' :: cs) = '"' :: cs := by
    rw [skipBlanks_append hblanks, skipBlanks_cons (by decide)]
  rw [scanValue, skipBlanks_cons (by decide)]
  dsimp only
  rw [if_neg (by decide), if_neg (by decide), if_pos rfl, hskip]
  rfl

section

variable (L : Layout) (level : Nat)

/-- The last item, before the closing bracket. -/
theorem scanItems_last {steps : Nat} {cs rest : List Char} {x : Node}
    (h : scanValue steps cs = (x, some (L.itemChars level [] ++ rest))) :
    scanItems (steps + 1) cs = ([x], .closed, some rest) := by
  have hskip : skipBlanks (L.itemChars level [] ++ rest) = ']' :: rest := by
    rw [Layout.itemChars, List.append_assoc, skipBlanks_append (L.gap_blank level)]
    exact skipBlanks_cons (by decide) rest
  rw [scanItems, h]
  dsimp only
  rw [hskip]
  rfl

/-- An item before others. -/
theorem scanItems_cons {steps : Nat} {cs after : List Char} {x : Node} (hafter : Opens after)
    (h : scanValue steps cs = (x, some (',' :: (L.gap level ++ after)))) :
    scanItems (steps + 1) cs = (x :: (scanItems steps after).1, (scanItems steps after).2) := by
  obtain ⟨c, after, rfl, hblank, hclose⟩ := hafter
  have hskip : skipBlanks (L.gap level ++ c :: after) = c :: after := by
    rw [skipBlanks_append (L.gap_blank level), skipBlanks_cons hblank]
  rw [scanItems, h]
  dsimp only
  rw [skipBlanks_cons (by decide)]
  simp only [hskip]
  split
  · rename_i heq
    exact absurd heq (List.cons_ne_nil c after)
  · rename_i heq
    exact absurd (List.cons.inj heq).1 hclose
  · rfl

/-- The last member, before the closing brace. -/
theorem scanMembers_last {steps : Nat} {cs rest : List Char} {x : Node} (name : String)
    (h : scanValue steps cs = (x, some (L.memberChars level [] ++ rest))) :
    scanMembers (steps + 1) (name.toList.flatMap escapeChar ++ '"' :: ':' :: cs) =
      ([(.ofString name, x)], .closed, some rest) := by
  have hskip : skipBlanks (L.memberChars level [] ++ rest) = '}' :: rest := by
    rw [Layout.memberChars, List.append_assoc, skipBlanks_append (L.gap_blank level)]
    exact skipBlanks_cons (by decide) rest
  rw [scanMembers, scanLiteral_quote]
  dsimp only
  rw [skipBlanks_cons (by decide)]
  simp only [h, hskip]
  rfl

/-- A member before others. -/
theorem scanMembers_cons {steps : Nat} {cs after : List Char} {x : Node} (name : String)
    (h : scanValue steps cs = (x, some (',' :: (L.gap level ++ '"' :: after)))) :
    scanMembers (steps + 1) (name.toList.flatMap escapeChar ++ '"' :: ':' :: cs) =
      ((.ofString name, x) :: (scanMembers steps after).1, (scanMembers steps after).2) := by
  have hskip : skipBlanks (L.gap level ++ '"' :: after) = '"' :: after := by
    rw [skipBlanks_append (L.gap_blank level), skipBlanks_cons (by decide)]
  rw [scanMembers, scanLiteral_quote]
  dsimp only
  rw [skipBlanks_cons (by decide)]
  simp only [h]
  rw [skipBlanks_cons (by decide)]
  simp only [hskip]
  rfl

end

variable (L : Layout)

mutual

/-- The text of a value scans to its node, with at least as many steps as it has characters. -/
theorem scanValue_chars (level steps : Nat) (rest : List Char) (hrest : Delimited rest) :
    ∀ j : Json, j.Legible → (L.chars level j).length ≤ steps + 1 →
      scanValue (steps + 1) (L.chars level j ++ rest) = (ofJson j, some rest)
  | .null, _, _ => rfl
  | .bool true, _, _ => rfl
  | .bool false, _, _ => rfl
  | .number n, hn, _ => scanValue_number (hn n (List.mem_singleton.2 rfl)) steps hrest
  | .string s, _, _ => scanValue_quote s steps rest
  | .array [], _, _ => rfl
  | .array (x :: xs), hlegible, hsteps => by
    rw [legible_array_iff, List.forall_mem_cons] at hlegible
    -- The bracket pays for the step to the items, and the first item for the step to its value.
    have hopens := opens_chars L (level + 1) hlegible.1
    have hx := hopens.length_pos
    have hxs := length_itemChars_pos L level xs
    rw [Layout.chars, List.length_cons, List.length_append, List.length_append] at hsteps
    obtain ⟨steps, rfl⟩ : ∃ k, steps = k + 2 := ⟨steps - 2, by omega⟩
    have hvalue := scanValue_chars (level + 1) steps (L.itemChars level xs ++ rest)
      (delimited_itemChars L level xs rest) x hlegible.1 (by omega)
    have hitems := scanItems_chars level (steps + 1) rest xs hlegible.2 (by omega) hvalue
    rw [Layout.chars, List.cons_append, List.append_assoc, List.append_assoc,
      scanValue_list _ (L.gap_blank _) (hopens.append _), hitems]
    rfl
  | .object [], _, _ => rfl
  | .object ((n, v) :: ms), hlegible, hsteps => by
    rw [legible_object_iff, List.forall_mem_cons] at hlegible
    have hv := (opens_chars L (level + 1) hlegible.1).length_pos
    have hms := length_memberChars_pos L level ms
    rw [Layout.chars, List.length_cons, List.length_append, List.length_append, List.length_cons,
      List.length_append, List.length_append] at hsteps
    obtain ⟨steps, rfl⟩ : ∃ k, steps = k + 2 := ⟨steps - 2, by omega⟩
    have hvalue := scanValue_chars (level + 1) steps (L.memberChars level ms ++ rest)
      (delimited_memberChars L level ms rest) v hlegible.1 (by omega)
    have hspace := (scanValue_append (steps + 1) L.space_blank _).trans hvalue
    have hmembers := scanMembers_chars level (steps + 1) rest ms hlegible.2 (by omega) n hspace
    rw [Layout.chars, List.cons_append, List.append_assoc, List.append_assoc, List.cons_append,
      List.append_assoc, List.append_assoc, quote_append, scanValue_object _ (L.gap_blank _),
      hmembers]
    rfl

/-- The items after the one at `cs` scan to their nodes. -/
theorem scanItems_chars (level steps : Nat) (rest : List Char) :
    ∀ xs : List Json, (∀ x ∈ xs, x.Legible) →
      (L.itemChars level xs).length ≤ steps + 1 → ∀ {cs : List Char} {x : Node},
        scanValue steps cs = (x, some (L.itemChars level xs ++ rest)) →
          scanItems (steps + 1) cs = (x :: ofItems xs, .closed, some rest)
  | [], _, _, _, _, h => scanItems_last L level h
  | x :: xs, hlegible, hsteps, cs, y, h => by
    rw [List.forall_mem_cons] at hlegible
    have hopens := opens_chars L (level + 1) hlegible.1
    have hx := hopens.length_pos
    have hxs := length_itemChars_pos L level xs
    rw [Layout.itemChars, List.length_cons, List.length_append, List.length_append] at hsteps
    obtain ⟨steps, rfl⟩ : ∃ k, steps = k + 2 := ⟨steps - 2, by omega⟩
    have hvalue := scanValue_chars (level + 1) steps (L.itemChars level xs ++ rest)
      (delimited_itemChars L level xs rest) x hlegible.1 (by omega)
    have hitems := scanItems_chars level (steps + 1) rest xs hlegible.2 (by omega) hvalue
    rw [Layout.itemChars, List.cons_append, List.append_assoc, List.append_assoc] at h
    rw [scanItems_cons L (level + 1) (hopens.append _) h, hitems]
    rfl

/-- The members after the one named `name` scan to theirs. -/
theorem scanMembers_chars (level steps : Nat) (rest : List Char) :
    ∀ ms : List (String × Json), (∀ m ∈ ms, m.2.Legible) →
      (L.memberChars level ms).length ≤ steps + 1 → ∀ (name : String) {cs : List Char} {x : Node},
        scanValue steps cs = (x, some (L.memberChars level ms ++ rest)) →
          scanMembers (steps + 1) (name.toList.flatMap escapeChar ++ '"' :: ':' :: cs) =
            ((.ofString name, x) :: ofMembers ms, .closed, some rest)
  | [], _, _, name, _, _, h => scanMembers_last L level name h
  | (n, v) :: ms, hlegible, hsteps, name, cs, x, h => by
    rw [List.forall_mem_cons] at hlegible
    have hv := (opens_chars L (level + 1) hlegible.1).length_pos
    have hms := length_memberChars_pos L level ms
    rw [Layout.memberChars, List.length_cons, List.length_append, List.length_append,
      List.length_cons, List.length_append, List.length_append] at hsteps
    obtain ⟨steps, rfl⟩ : ∃ k, steps = k + 2 := ⟨steps - 2, by omega⟩
    have hvalue := scanValue_chars (level + 1) steps (L.memberChars level ms ++ rest)
      (delimited_memberChars L level ms rest) v hlegible.1 (by omega)
    have hspace := (scanValue_append (steps + 1) L.space_blank _).trans hvalue
    have hmembers := scanMembers_chars level (steps + 1) rest ms hlegible.2 (by omega) n hspace
    rw [Layout.memberChars, List.cons_append, List.append_assoc, List.append_assoc,
      List.cons_append, List.append_assoc, List.append_assoc, quote_append] at h
    rw [scanMembers_cons L (level + 1) name h, hmembers]
    rfl

end

/-- **A printed value scans back**, in every layout and whatever blanks follow it. -/
theorem scan_chars {j : Json} (hj : j.Legible) :
    scan (String.ofList (L.chars 0 j)) = (ofJson j, some []) := by
  have hscan := scanValue_chars L 0 (2 * (L.chars 0 j).length + 1) [] .nil j hj (by omega)
  rw [List.append_nil] at hscan
  rw [scan, String.toList_ofList]
  exact hscan

theorem scan_pretty {j : Json} (hj : j.Legible) :
    scan j.pretty = (ofJson j, some []) := by
  rw [pretty, prettyChars_eq]
  exact scan_chars .pretty hj

theorem scan_compact {j : Json} (hj : j.Legible) :
    scan j.compact = (ofJson j, some []) := by
  rw [compact, compactChars_eq 0]
  exact scan_chars .compact hj

theorem scan_printed {j : Json} {text : String} (htext : text ∈ [j.compact, j.pretty])
    (hj : j.Legible) : scan text = (ofJson j, some []) := by
  rcases List.mem_pair.1 htext with rfl | rfl
  · exact scan_compact hj
  · exact scan_pretty hj

/-- A reader of a text that is one value makes of it what it makes of the value. -/
theorem readText_of_scan {α : Type} (read : Node → Reading α) {text : String} {n : Node}
    (h : scan text = (n, some [])) : readText read text = read n := by
  rw [readText, h]
  dsimp only
  cases read n <;> rfl

end Node

end FrameTree.Json
