import FrameTree.Json.Scanner
import FrameTree.Json.Value
import FrameTree.Proofs.Digits
import Mathlib.Data.List.TakeDrop

/-!
# Scanning numbers

A numeral is rows of digits with a sign, a point and an exponent between them (`Json.Numeral.text`).
Each row ends where the digits do, so the scan of a number depends on what comes next. After a value
this is a blank, a comma or a closing bracket, none of which goes on a numeral (`Json.Delimited`).

**Numbers** (`Json.Number.Legible`). A number is legible if its text is one numeral. Whole numbers
are, and in the range of 64 bits they are read as themselves (`Json.Number.value_numeral_int`).

Main result: `Json.Numeral.scan_text`.
-/

namespace FrameTree.Json

/-! ## Where numbers end -/

/-- What may follow a value: the text ends, or goes on with a blank, a comma or a closing bracket.
-/
def Delimited (rest : List Char) : Prop :=
  ∀ c ∈ rest.head?, isBlank c = true ∨ c = ',' ∨ c = ']' ∨ c = '}'

theorem Delimited.nil : Delimited [] := fun _ h => nomatch h

theorem Delimited.of_head {c : Char} (rest : List Char)
    (h : isBlank c = true ∨ c = ',' ∨ c = ']' ∨ c = '}') : Delimited (c :: rest) := by
  intro d hd
  cases hd
  exact h

/-- None of the characters that go on a number comes after a value. -/
theorem Delimited.not_numeral {c : Char} {rest : List Char} (h : Delimited (c :: rest)) :
    c.isDigit = false ∧ c ≠ '.' ∧ c ≠ 'e' ∧ c ≠ 'E' := by
  have hc := h c rfl
  simp only [isBlank, Bool.or_eq_true, beq_iff_eq, or_assoc] at hc
  rcases hc with rfl | rfl | rfl | rfl | rfl | rfl | rfl <;> decide

theorem Delimited.not_digit {rest : List Char} (h : Delimited rest) :
    ∀ c ∈ rest.head?, c.isDigit = false := by
  intro c hc
  cases rest with
  | nil => cases hc
  | cons d rest =>
    cases hc
    exact h.not_numeral.1

/-! ## Rows of digits -/

/-- At least one digit, and nothing else. -/
structure IsRow (ds : List Char) : Prop where
  ne_nil : ds ≠ []
  digits : ∀ c ∈ ds, c.isDigit = true

theorem isRow_decimal (n : Nat) : IsRow (decimal n) :=
  ⟨decimal_ne_nil n, fun _ => isDigit_of_mem_decimal⟩

theorem isRow_zero : IsRow ['0'] where
  ne_nil := by decide
  digits := List.forall_mem_singleton.2 (by decide)

/-- A zero in front stands alone. -/
def ZeroAlone (ds : List Char) : Prop := ∀ cs, ds = '0' :: cs → cs = []

theorem zeroAlone_singleton (c : Char) : ZeroAlone [c] := fun _ h => (List.cons.inj h).2.symm

theorem zeroAlone_decimal (n : Nat) : ZeroAlone (decimal n) := by
  obtain ⟨c, ds, hds, hzero⟩ := decimal_eq_cons n
  intro cs hcs
  rw [hds] at hcs
  obtain ⟨hc, rfl⟩ := List.cons.inj hcs
  exact (hzero hc).2

theorem zeroAlone_of_head {c : Char} (h : c ≠ '0') (cs : List Char) : ZeroAlone (c :: cs) :=
  fun _ hcs => absurd (List.cons.inj hcs).1 h

theorem exists_head_decimal {n : Nat} (hn : n ≠ 0) : ∃ c ds, decimal n = c :: ds ∧ c ≠ '0' := by
  obtain ⟨c, ds, hds, hzero⟩ := decimal_eq_cons n
  exact ⟨c, ds, hds, fun hc => hn (hzero hc).1⟩

section

variable {ds rest : List Char}

theorem IsRow.append (hds : IsRow ds) {es : List Char} (hes : ∀ c ∈ es, c.isDigit = true) :
    IsRow (ds ++ es) where
  ne_nil := List.append_ne_nil_of_left_ne_nil hds.ne_nil es
  digits := List.forall_mem_append.2 ⟨hds.digits, hes⟩

theorem IsRow.take (hds : IsRow ds) {k : Nat} (hk : 0 < k) : IsRow (ds.take k) where
  ne_nil := by
    rw [Ne, List.take_eq_nil_iff, not_or]
    exact ⟨hk.ne', hds.ne_nil⟩
  digits c hc := hds.digits c (List.mem_of_mem_take hc)

theorem IsRow.drop (hds : IsRow ds) {k : Nat} (hk : k < ds.length) : IsRow (ds.drop k) where
  ne_nil := by
    rw [Ne, List.drop_eq_nil_iff]
    exact hk.not_ge
  digits c hc := hds.digits c (List.mem_of_mem_drop hc)

theorem isDigit_of_mem_replicate {k : Nat} {c : Char} (h : c ∈ List.replicate k '0') :
    c.isDigit = true := by
  rw [List.eq_of_mem_replicate h]
  rfl

theorem scanDigits_append (hds : IsRow ds) (hrest : ∀ c ∈ rest.head?, c.isDigit = false) :
    scanDigits (ds ++ rest) = .ok (ds, rest) := by
  have hspan : (ds ++ rest).span Char.isDigit = (ds, rest) := by
    have hstop : rest.takeWhile Char.isDigit = [] ∧ rest.dropWhile Char.isDigit = rest := by
      cases rest with
      | nil => exact ⟨rfl, rfl⟩
      | cons c rest =>
        have hc := hrest c rfl
        exact ⟨by rw [List.takeWhile_cons, hc]; rfl, by rw [List.dropWhile_cons, hc]; rfl⟩
    rw [List.span_eq_takeWhile_dropWhile, List.takeWhile_append_of_pos hds.digits,
      List.dropWhile_append_of_pos hds.digits, hstop.1, hstop.2, List.append_nil]
  obtain ⟨c, cs, rfl⟩ := List.exists_cons_of_ne_nil hds.ne_nil
  rw [List.cons_append, scanDigits, ← List.cons_append, hspan, hds.digits c List.mem_cons_self,
    if_pos rfl]

theorem scanWhole_append (hds : IsRow ds) (hzero : ZeroAlone ds)
    (hrest : ∀ c ∈ rest.head?, c.isDigit = false) : scanWhole (ds ++ rest) = .ok (ds, rest) := by
  obtain ⟨c, cs, rfl⟩ := List.exists_cons_of_ne_nil hds.ne_nil
  by_cases hc : c = '0'
  · subst hc
    obtain rfl := hzero cs rfl
    cases rest with
    | nil => rfl
    | cons c rest =>
      show (if c.isDigit = true then _ else _) = _
      rw [hrest c rfl]
      rfl
  · have hscan : scanWhole (c :: (cs ++ rest)) = scanDigits (c :: (cs ++ rest)) := by
      rw [scanWhole]
      intro cs hcs
      exact hc (List.cons.inj hcs).1
    rw [List.cons_append, hscan, ← List.cons_append, scanDigits_append hds hrest]

end

/-! ## Numerals -/

namespace Numeral

def fractionText : Option (List Char) → List Char
  | none => []
  | some ds => '.' :: ds

def exponentText : Option (Bool × List Char) → List Char
  | none => []
  | some (down, ds) => 'e' :: (if down then '-' else '+') :: ds

/-- The text of a numeral, with a sign in its exponent. -/
def text (n : Numeral) : List Char :=
  (if n.negative then ['-'] else []) ++
    (n.whole ++ (fractionText n.fraction ++ exponentText n.exponent))

/-- All parts of the numeral are rows of digits. -/
structure WellFormed (n : Numeral) : Prop where
  whole : IsRow n.whole
  zeroAlone : ZeroAlone n.whole
  fraction : ∀ ds ∈ n.fraction, IsRow ds
  exponent : ∀ e ∈ n.exponent, IsRow e.2

variable {rest : List Char}

theorem scanFraction_fractionText {fraction : Option (List Char)}
    (h : ∀ ds ∈ fraction, IsRow ds) (hdot : ∀ cs, rest ≠ '.' :: cs)
    (hrest : ∀ c ∈ rest.head?, c.isDigit = false) :
    scanFraction (fractionText fraction ++ rest) = .ok (fraction, rest) := by
  cases fraction with
  | none =>
    rw [fractionText, List.nil_append, scanFraction]
    exact hdot
  | some ds =>
    rw [fractionText, List.cons_append, scanFraction, scanDigits_append (h ds rfl) hrest]
    rfl

theorem scanExponent_exponentText {exponent : Option (Bool × List Char)}
    (h : ∀ e ∈ exponent, IsRow e.2) (hrest : Delimited rest) :
    scanExponent (exponentText exponent ++ rest) = .ok (exponent, rest) := by
  cases exponent with
  | none =>
    cases rest with
    | nil => rfl
    | cons c rest =>
      obtain ⟨-, -, he, hE⟩ := hrest.not_numeral
      rw [exponentText, List.nil_append, scanExponent.eq_def]
      dsimp only
      rw [if_neg]
      simp only [Bool.or_eq_true, decide_eq_true_eq, not_or]
      exact ⟨he, hE⟩
  | some e =>
    obtain ⟨down, ds⟩ := e
    have hds := scanDigits_append (h _ rfl) hrest.not_digit
    cases down with
    | false =>
      show (scanDigits (ds ++ rest) >>= fun p => Except.ok (some (false, p.1), p.2)) = _
      rw [hds]
      rfl
    | true =>
      show (scanDigits (ds ++ rest) >>= fun p => Except.ok (some (true, p.1), p.2)) = _
      rw [hds]
      rfl

/-- What follows the fraction. -/
theorem head?_exponentText (exponent : Option (Bool × List Char)) (hrest : Delimited rest) :
    ∀ c ∈ (exponentText exponent ++ rest).head?, c.isDigit = false ∧ c ≠ '.' := by
  intro c hc
  cases exponent with
  | none =>
    cases rest with
    | nil => cases hc
    | cons d rest =>
      cases hc
      exact ⟨hrest.not_numeral.1, hrest.not_numeral.2.1⟩
  | some e =>
    cases hc
    decide

/-- What follows the whole part. -/
theorem head?_fractionText (fraction : Option (List Char))
    (hrest : ∀ c ∈ rest.head?, c.isDigit = false) :
    ∀ c ∈ (fractionText fraction ++ rest).head?, c.isDigit = false := by
  cases fraction with
  | none => exact hrest
  | some ds =>
    intro c hc
    cases hc
    decide

/-- **A numeral scans back**, if nothing goes on it. -/
theorem WellFormed.scan_text {n : Numeral} (h : n.WellFormed) (hrest : Delimited rest) :
    scanNumeral (n.text ++ rest) = .ok (n, rest) := by
  obtain ⟨negative, whole, fraction, exponent⟩ := n
  have hafter := head?_exponentText exponent hrest
  have hdigit := fun c hc => (hafter c hc).1
  have hwhole := scanWhole_append h.whole h.zeroAlone (head?_fractionText fraction hdigit)
  have hfraction := scanFraction_fractionText h.fraction
    (fun cs hcs => (hafter '.' (by rw [hcs]; rfl)).2 rfl) hdigit
  have hexponent := scanExponent_exponentText h.exponent hrest
  cases negative with
  | true =>
    rw [text, if_pos rfl, List.append_assoc, List.append_assoc, List.append_assoc,
      List.singleton_append, scanNumeral]
    simp only [hwhole, hfraction, hexponent, bind, Except.bind]
    rfl
  | false =>
    -- The first digit is no sign.
    have hsign : ∀ cs, whole ++ (fractionText fraction ++ (exponentText exponent ++ rest)) ≠
        '-' :: cs := by
      intro cs hcs
      obtain ⟨c, ds, rfl⟩ := List.exists_cons_of_ne_nil h.whole.ne_nil
      have hc := h.whole.digits c List.mem_cons_self
      rw [(List.cons.inj hcs).1] at hc
      exact absurd hc (by decide)
    rw [text, if_neg Bool.false_ne_true, List.nil_append, List.append_assoc, List.append_assoc,
      scanNumeral.eq_def]
    split
    rename_i heq
    split at heq
    · rename_i hcs
      exact absurd hcs (hsign _)
    · cases heq
      simp only [hwhole, hfraction, hexponent, bind, Except.bind]
      rfl

end Numeral

/-! ## Numbers -/

/-- The numeral that the text of a number is. -/
def Number.numeral (n : Number) : Numeral :=
  match scanNumeral n.text with
  | .ok (m, _) => m
  | .error _ => default

/-- The text of the number is one numeral, whatever may follow it. -/
structure Number.Legible (n : Number) : Prop where
  scans : ∀ rest, Delimited rest → scanNumeral (n.text ++ rest) = .ok (n.numeral, rest)
  head : ∃ c cs, n.text = c :: cs ∧ (c = '-' ∨ c.isDigit = true)

section

variable {n : Number} {m : Numeral}

theorem Number.numeral_eq (hm : m.WellFormed) (htext : n.text = m.text) : n.numeral = m := by
  have hscan := hm.scan_text .nil
  rw [List.append_nil] at hscan
  rw [numeral, htext, hscan]

theorem Number.legible_of_text (hm : m.WellFormed) (htext : n.text = m.text) : n.Legible where
  scans rest hrest := by
    rw [numeral_eq hm htext, htext]
    exact hm.scan_text hrest
  head := by
    obtain ⟨c, ds, hds⟩ := List.exists_cons_of_ne_nil hm.whole.ne_nil
    have hc := hm.whole.digits c (hds ▸ List.mem_cons_self)
    rw [htext, Numeral.text, hds]
    split
    · exact ⟨'-', _, rfl, .inl rfl⟩
    · exact ⟨c, _, rfl, .inr hc⟩

end

/-- The numeral of a whole number. -/
def Numeral.ofInt (i : Int) : Numeral := ⟨decide (i < 0), decimal i.natAbs, none, none⟩

theorem Numeral.wellFormed_ofInt (i : Int) : (Numeral.ofInt i).WellFormed where
  whole := isRow_decimal i.natAbs
  zeroAlone := zeroAlone_decimal i.natAbs
  fraction _ h := nomatch h
  exponent _ h := nomatch h

theorem Number.text_int (i : Int) : (Number.int i).text = (Numeral.ofInt i).text := by
  rw [text, decimalInt, Numeral.text, Numeral.ofInt]
  by_cases hi : i < 0
  · simp [hi, Numeral.fractionText, Numeral.exponentText]
  · simp [hi, Numeral.fractionText, Numeral.exponentText]

theorem Number.legible_int (i : Int) : (Number.int i).Legible :=
  legible_of_text (Numeral.wellFormed_ofInt i) (text_int i)

/-- A whole number of 64 bits is the value of its numeral. -/
theorem Number.value_numeral_int {i : Int} (hlow : -(powerOfTwo 63 : Int) ≤ i)
    (hhigh : i < powerOfTwo 64) : (Number.int i).numeral.value = .ok (.int i) := by
  have h63 : powerOfTwo 63 = 9223372036854775808 := by decide
  have h64 : powerOfTwo 64 = 18446744073709551616 := by decide
  rw [h63] at hlow
  rw [h64] at hhigh
  have hdigits : takeDigits 0 (decimal i.natAbs) = (i.natAbs, 0) :=
    takeDigits_decimal (by rw [h64]; omega)
  rw [numeral_eq (Numeral.wellFormed_ofInt i) (text_int i), Numeral.ofInt, Numeral.value]
  dsimp only
  rw [hdigits]
  dsimp only
  by_cases hi : i < 0
  · have hpos : (decide (0 < i.natAbs) && decide (i.natAbs ≤ powerOfTwo 63)) = true := by
      rw [Bool.and_eq_true, decide_eq_true_iff, decide_eq_true_iff, h63]
      omega
    rw [decide_eq_true hi, if_neg (Nat.lt_irrefl 0), if_neg (by decide), hpos, if_pos rfl]
    congr 2
    omega
  · rw [decide_eq_false hi, if_neg (Nat.lt_irrefl 0), if_pos (by decide)]
    congr 2
    omega

/-- The number can be read: its text is one numeral, and the value of that is in range. -/
structure Number.Readable (n : Number) : Prop where
  legible : n.Legible
  inRange : ∃ m, n.numeral.value = .ok m

/-- The number that the text of a number is read as. -/
def Number.reread (n : Number) : Number :=
  match n.numeral.value with
  | .ok m => m
  | .error _ => n

theorem Number.Readable.value_eq {n : Number} (h : n.Readable) :
    n.numeral.value = .ok n.reread := by
  obtain ⟨m, hm⟩ := h.inRange
  rw [reread, hm]

theorem Number.reread_int {i : Int} (hlow : -(powerOfTwo 63 : Int) ≤ i)
    (hhigh : i < powerOfTwo 64) : (Number.int i).reread = .int i := by
  rw [reread, value_numeral_int hlow hhigh]

theorem Number.readable_int {i : Int} (hlow : -(powerOfTwo 63 : Int) ≤ i)
    (hhigh : i < powerOfTwo 64) : (Number.int i).Readable :=
  ⟨legible_int i, _, value_numeral_int hlow hhigh⟩

end FrameTree.Json
