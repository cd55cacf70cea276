import FrameTree.Proofs.Doubles
import FrameTree.Proofs.Variant

/-!
# Reading from a value

A frame is not read in place: its whole text is parsed first, and then the value is read. What
parsing makes of a printed value (`Json.reread`) has the members of every object by increasing name,
and each number as its numeral reads. The value a reader gets is the parsed one; what is said about
readers here is said about the value that was printed.

**Parsing** (`Json.parse_of_scan`). A value whose numbers can be read is parsed again, if it does
not nest too deep.

**Records** (`Json.gives_record`). Members that no field is for are passed over, wherever they
stand. So an object that has the members of a record among others is read as the record.

Main results: `Json.parse_of_scan` and `Json.gives_record`.
-/

namespace FrameTree.Json

variable {α ρ : Type}

/-! ## Parsing what was printed -/

/-- All numbers of the value can be read. -/
def Readable (j : Json) : Prop := ∀ n ∈ j.numbers, n.Readable

theorem Readable.legible {j : Json} (h : j.Readable) : j.Legible := fun n hn => (h n hn).legible

/-- All numbers of the value are numbers that a value can have. -/
def Proper (j : Json) : Prop := ∀ n ∈ j.numbers, n.Proper

theorem Proper.readable {j : Json} (h : j.Proper) : j.Readable := fun n hn => (h n hn).readable

mutual

/-- The value that the text of a value is parsed as. -/
def reread : Json → Json
  | .number n => .number n.reread
  | .array xs => .array (rereadItems xs)
  | .object ms => object' (rereadMembers ms)
  | j => j

def rereadItems : List Json → List Json
  | [] => []
  | x :: xs => reread x :: rereadItems xs

def rereadMembers : List (String × Json) → List (String × Json)
  | [] => []
  | (n, v) :: ms => (n, reread v) :: rereadMembers ms

end

theorem rereadMembers_eq (ms : List (String × Json)) :
    rereadMembers ms = ms.map fun m => (m.1, m.2.reread) := by
  induction ms with
  | nil => rfl
  | cons m ms ih => rw [rereadMembers, ih, List.map_cons]

namespace Node

mutual

/-- Any value is parsed, if it fits into the room. -/
theorem readAny_ofJson : ∀ (room : Nat) (j : Json), j.Readable →
    readAny room (ofJson j) = fitted room j.nesting j.reread
  | room, .null, _ => (fitted_zero room Json.null).symm
  | room, .bool b, _ => (fitted_zero room (Json.bool b)).symm
  | room, .string s, _ => (fitted_zero room (Json.string s)).symm
  | room, .number n, h => by
    have hn : n.numeral.value = .ok n.reread := (h n List.mem_cons_self).value_eq
    rw [ofJson, readAny, hn]
    exact (fitted_zero room (Json.number n.reread)).symm
  | room, .array xs, h => by
    have hitems : (readAnyItems (room - 1) (ofItems xs) >>= fun xs => pure (Json.array xs)) =
        fitted (room - 1) (itemNesting xs) (Json.array (rereadItems xs)) := by
      rw [readAnyItems_ofItems (room - 1) xs h]
      exact fitted_map (room - 1) _ (rereadItems xs) Json.array
    show (takeRoom room >>= fun _ => readAnyItems (room - 1) (ofItems xs) >>= fun xs =>
      pure (Json.array xs)) = _
    rw [hitems]
    exact takeRoom_bind room _ _
  | room, .object ms, h => by
    have hmembers : (readAnyMembers (room - 1) (ofMembers ms) >>= fun ms => pure (object' ms)) =
        fitted (room - 1) (memberNesting ms) (object' (rereadMembers ms)) := by
      rw [readAnyMembers_ofMembers (room - 1) ms h]
      exact fitted_map (room - 1) _ (rereadMembers ms) object'
    show (takeRoom room >>= fun _ => readAnyMembers (room - 1) (ofMembers ms) >>= fun ms =>
      pure (object' ms)) = _
    rw [hmembers]
    exact takeRoom_bind room _ _

theorem readAnyItems_ofItems : ∀ (room : Nat) (xs : List Json), (∀ n ∈ itemNumbers xs, n.Readable) →
    readAnyItems room (ofItems xs) = fitted room (itemNesting xs) (rereadItems xs)
  | room, [], _ => (fitted_zero room []).symm
  | room, x :: xs, h => by
    rw [itemNumbers, List.forall_mem_append] at h
    have hrest (y : Json) : (readAnyItems room (ofItems xs) >>= fun ys => pure (y :: ys)) =
        fitted room (itemNesting xs) (y :: rereadItems xs) := by
      rw [readAnyItems_ofItems room xs h.2]
      exact fitted_map room _ (rereadItems xs) (y :: ·)
    rw [ofItems, readAnyItems, readAny_ofJson room x h.1]
    simp only [hrest]
    exact fitted_bind room _ _ x.reread (· :: rereadItems xs)

theorem readAnyMembers_ofMembers : ∀ (room : Nat) (ms : List (String × Json)),
    (∀ n ∈ memberNumbers ms, n.Readable) →
    readAnyMembers room (ofMembers ms) = fitted room (memberNesting ms) (rereadMembers ms)
  | room, [], _ => (fitted_zero room []).symm
  | room, (name, v) :: ms, h => by
    rw [memberNumbers, List.forall_mem_append] at h
    have hname : decoded (Literal.ofString name).text = pure name := rfl
    have hrest (w : Json) :
        (readAnyMembers room (ofMembers ms) >>= fun ns => pure ((name, w) :: ns)) =
          fitted room (memberNesting ms) ((name, w) :: rereadMembers ms) := by
      rw [readAnyMembers_ofMembers room ms h.2]
      exact fitted_map room _ (rereadMembers ms) ((name, w) :: ·)
    rw [ofMembers, readAnyMembers, hname, pure_bind, readAny_ofJson room v h.1]
    simp only [hrest]
    exact fitted_bind room _ _ v.reread fun w => (name, w) :: rereadMembers ms

end

end Node

/-- **Parsing.** A text of a value is parsed, if the value does not nest too deep. -/
theorem parse_of_scan {j : Json} {text : String} (h : j.Readable)
    (hscan : j.Legible → Node.scan text = (Node.ofJson j, some [])) :
    parse text = fitted nestingRoom j.nesting j.reread := by
  rw [parse, Node.readText_of_scan _ (hscan h.legible), Node.readAny_ofJson _ j h]

/-- The value is parsed again with this much room. -/
structure Within (room : Nat) (j : Json) : Prop where
  readable : j.Readable
  nesting : j.nesting ≤ room

theorem Within.parse_eq {j : Json} {text : String} (h : j.Within nestingRoom)
    (htext : text ∈ [j.compact, j.pretty]) : parse text = .ok j.reread := by
  rw [parse_of_scan h.readable (Node.scan_printed htext), fitted, if_pos h.nesting]

section

variable {room : Nat}

@[simp] theorem within_string (s : String) : (string s).Within room where
  readable _ h := nomatch h
  nesting := Nat.zero_le room

@[simp] theorem within_bool (b : Bool) : (bool b).Within room where
  readable _ h := nomatch h
  nesting := Nat.zero_le room

theorem within_int {i : Int} (hlow : -(powerOfTwo 63 : Int) ≤ i) (hhigh : i < powerOfTwo 64) :
    (number (.int i)).Within room where
  readable n hn := by
    rw [List.mem_singleton.1 hn]
    exact Number.readable_int hlow hhigh
  nesting := Nat.zero_le room

@[simp] theorem within_int32 (i : Int32) : (ofInt32 i).Within room :=
  within_int (Int.le_trans (by decide) (Int32.le_toInt i))
    (Int.lt_trans (Int32.toInt_lt i) (by decide))

theorem within_index {n : Nat} (h : n < powerOfTwo 64) : (ofNat n).Within room :=
  within_int (by omega) (Int.ofNat_lt.2 h)

@[simp] theorem within_array_iff {xs : List Json} :
    (array xs).Within (room + 1) ↔ ∀ x ∈ xs, x.Within room := by
  constructor
  · intro h x hx
    exact ⟨forall_mem_itemNumbers.1 h.readable x hx, nesting_array_le_iff.1 h.nesting x hx⟩
  · intro h
    exact ⟨forall_mem_itemNumbers.2 fun x hx => (h x hx).readable,
      nesting_array_le_iff.2 fun x hx => (h x hx).nesting⟩

@[simp] theorem within_object_iff {ms : List (String × Json)} :
    (object ms).Within (room + 1) ↔ ∀ m ∈ ms, m.2.Within room := by
  constructor
  · intro h m hm
    exact ⟨forall_mem_memberNumbers.1 h.readable m hm, nesting_object_le_iff.1 h.nesting m hm⟩
  · intro h
    exact ⟨forall_mem_memberNumbers.2 fun m hm => (h m hm).readable,
      nesting_object_le_iff.2 fun m hm => (h m hm).nesting⟩

end

/-! ## Sorted members -/

section

variable {ms : List (String × Json)}

theorem insertMember_map (f : Json → Json) (name : String) (v : Json) :
    insertMember name (f v) (ms.map fun m => (m.1, f m.2)) =
      (insertMember name v ms).map fun m => (m.1, f m.2) := by
  induction ms with
  | nil => rfl
  | cons m ms ih =>
    rw [List.map_cons, insertMember, insertMember, ih]
    split
    · rfl
    · split <;> rfl

theorem insertMember_perm {name : String} (hname : name ∉ ms.map Prod.fst) (v : Json) :
    (insertMember name v ms).Perm ((name, v) :: ms) := by
  induction ms with
  | nil => exact .refl _
  | cons m ms ih =>
    rw [List.map_cons, List.mem_cons, not_or] at hname
    rw [insertMember]
    split
    · exact .refl _
    · rw [if_neg hname.1]
      exact ((ih hname.2).cons m).trans (.swap _ _ _)

theorem foldl_insertMember_map (f : Json → Json) (sorted : List (String × Json)) :
    (ms.map fun m => (m.1, f m.2)).foldl (fun sorted m => insertMember m.1 m.2 sorted)
        (sorted.map fun m => (m.1, f m.2)) =
      (ms.foldl (fun sorted m => insertMember m.1 m.2 sorted) sorted).map
        fun m => (m.1, f m.2) := by
  induction ms generalizing sorted with
  | nil => rfl
  | cons m ms ih => rw [List.map_cons, List.foldl_cons, List.foldl_cons, insertMember_map, ih]

/-- Sorting goes by the names alone. -/
theorem sortMembers_map (f : Json → Json) (ms : List (String × Json)) :
    sortMembers (ms.map fun m => (m.1, f m.2)) = (sortMembers ms).map fun m => (m.1, f m.2) :=
  foldl_insertMember_map f []

theorem foldl_insertMember_perm (sorted : List (String × Json))
    (h : ((ms ++ sorted).map Prod.fst).Nodup) :
    (ms.foldl (fun sorted m => insertMember m.1 m.2 sorted) sorted).Perm (ms ++ sorted) := by
  induction ms generalizing sorted with
  | nil => exact .refl _
  | cons m ms ih =>
    have hcons : (m :: ms ++ sorted).Perm (ms ++ m :: sorted) := List.perm_middle.symm
    have hm : m.1 ∉ sorted.map Prod.fst := by
      rw [List.cons_append, List.map_cons, List.nodup_cons, List.map_append, List.mem_append] at h
      exact fun hmem => h.1 (.inr hmem)
    have hinsert := insertMember_perm hm m.2
    rw [List.foldl_cons]
    refine (ih _ ?_).trans ((hinsert.append_left ms).trans hcons.symm)
    exact (((hinsert.append_left ms).trans hcons.symm).map Prod.fst).nodup_iff.2 h

/-- Members with different names are all kept. -/
theorem sortMembers_perm (h : (ms.map Prod.fst).Nodup) : (sortMembers ms).Perm ms := by
  have hperm := foldl_insertMember_perm [] (by rwa [List.append_nil])
  rwa [List.append_nil] at hperm

theorem mem_insertMember {name : String} {v : Json} {m : String × Json}
    (h : m ∈ insertMember name v ms) : m = (name, v) ∨ m ∈ ms := by
  induction ms with
  | nil => exact .inl (List.mem_singleton.1 h)
  | cons n ms ih =>
    rw [insertMember] at h
    split at h
    · exact List.mem_cons.1 h
    · split at h
      · exact (List.mem_cons.1 h).imp_right (List.mem_cons_of_mem n)
      · rcases List.mem_cons.1 h with rfl | h
        · exact .inr List.mem_cons_self
        · exact (ih h).imp_right (List.mem_cons_of_mem n)

/-- Whatever the names are, no member is made up. -/
theorem mem_of_mem_sortMembers {m : String × Json} (h : m ∈ sortMembers ms) : m ∈ ms := by
  have hfold (sorted : List (String × Json))
      (h : m ∈ ms.foldl (fun sorted m => insertMember m.1 m.2 sorted) sorted) :
      m ∈ sorted ∨ m ∈ ms := by
    clear * - h
    induction ms generalizing sorted with
    | nil => exact .inl h
    | cons n ms ih =>
      rcases ih _ h with h | h
      · exact (mem_insertMember h).elim (fun h => .inr (h ▸ List.mem_cons_self)) .inl
      · exact .inr (List.mem_cons_of_mem n h)
  exact (hfold [] h).resolve_left List.not_mem_nil

theorem reread_object (ms : List (String × Json)) :
    (object ms).reread = .object ((sortMembers ms).map fun m => (m.1, m.2.reread)) := by
  rw [reread, object', rereadMembers_eq, sortMembers_map]

end

/-! ## Looking inside -/

theorem lookup_eq_some_iff {ms : List (String × Json)} (h : (ms.map Prod.fst).Nodup)
    {name : String} {v : Json} : ms.lookup name = some v ↔ (name, v) ∈ ms := by
  induction ms with
  | nil => simp
  | cons m ms ih =>
    obtain ⟨n, w⟩ := m
    rw [List.map_cons, List.nodup_cons] at h
    rw [List.lookup_cons, List.mem_cons]
    by_cases hn : name = n
    · subst hn
      have hv : (name, v) ∉ ms := fun hv => h.1 (List.mem_map.2 ⟨_, hv, rfl⟩)
      simp [hv, eq_comm]
    · have hne : (name == n) = false := beq_false_of_ne hn
      simp [hne, hn, ih h.2]

theorem lookup_of_perm {ms ns : List (String × Json)} (hperm : ns.Perm ms)
    (h : (ms.map Prod.fst).Nodup) (name : String) : ns.lookup name = ms.lookup name := by
  refine Option.ext fun v => ?_
  rw [lookup_eq_some_iff ((hperm.map Prod.fst).nodup_iff.2 h), lookup_eq_some_iff h,
    hperm.mem_iff]

/-- Looking into an object that was parsed again. -/
theorem get?_reread {ms : List (String × Json)} (h : (ms.map Prod.fst).Nodup) (name : String) :
    (object ms).reread.get? name = ((object ms).get? name).map reread := by
  have hlookup (ns : List (String × Json)) :
      (ns.map fun m => (m.1, m.2.reread)).lookup name = (ns.lookup name).map reread := by
    induction ns with
    | nil => rfl
    | cons m ns ih =>
      rw [List.map_cons, List.lookup_cons, List.lookup_cons, ih]
      cases name == m.1 <;> rfl
  rw [reread_object, get?, get?, hlookup, lookup_of_perm (sortMembers_perm h) h]

theorem pointer?_reread {ms : List (String × Json)} (h : (ms.map Prod.fst).Nodup) (step : String)
    (rest : List String) : (object ms).reread.pointer? (step :: rest) =
      ((object ms).get? step).bind fun v => v.reread.pointer? rest := by
  have hstep : (object ms).reread.pointer? (step :: rest) =
      ((object ms).reread.get? step).bind fun v => v.pointer? rest := by
    rw [reread_object]
    rfl
  rw [hstep, get?_reread h, Option.bind_map]
  rfl

/-- A name that is no index and that nothing is found under. -/
theorem pointer?_reread_none {j : Json} {name : String}
    (hname : name.toList.all Char.isDigit = false) (h : j.pointer? [name] = none) :
    j.reread.pointer? [name] = none := by
  cases j with
  | object ms =>
    have hms : ms.lookup name = none := by
      have hbind : (ms.lookup name).bind (pointer? []) = none := h
      cases hlookup : ms.lookup name with
      | none => rfl
      | some v =>
        rw [hlookup] at hbind
        cases hbind
    have hsorted : ((sortMembers ms).map fun m => (m.1, m.2.reread)).lookup name = none := by
      rw [List.lookup_eq_none_iff, List.forall_mem_map]
      exact fun m hm => List.lookup_eq_none_iff.1 hms m (mem_of_mem_sortMembers hm)
    rw [reread_object]
    show (List.lookup name _).bind _ = none
    rw [hsorted]
    rfl
  | array xs =>
    rw [reread, pointer?, hname]
    simp
  | _ => rfl

/-! ## Readers -/

/-- The reader takes the value for `a`, when it was parsed from a text. -/
def Gives (read : Json → Reading α) (j : Json) (a : α) : Prop := read j.reread = .ok a

theorem gives_list {item : Json → Reading α} {js : List Json} {xs : List α}
    (h : List.Forall₂ (Gives item) js xs) : Gives (readList item) (.array js) xs := by
  show (rereadItems js).mapM item = .ok xs
  induction h with
  | nil => rfl
  | cons hj _ ih =>
    rw [rereadItems, List.mapM_cons, ih, hj]
    rfl

theorem gives_int32 (i : Int32) : Gives readInt32 (.ofInt32 i) i := by
  have hlow := Int32.le_toInt i
  have hhigh := Int32.toInt_lt i
  have hrange : (decide (-2147483648 ≤ i.toInt) && decide (i.toInt ≤ 2147483647)) = true := by
    rw [Bool.and_eq_true, decide_eq_true_iff, decide_eq_true_iff]
    omega
  show toInt32 (Number.int i.toInt).reread = .ok i
  rw [Number.reread_int (Int.le_trans (by decide) hlow) (Int.lt_trans hhigh (by decide)), toInt32,
    if_pos hrange, Int32.ofInt_toInt]

theorem gives_index {n : Nat} (h : n < powerOfTwo 64) : Gives readIndex (.ofNat n) n := by
  have hhigh : (n : Int) < powerOfTwo 64 := Int.ofNat_lt.2 h
  have hrange : (decide (0 ≤ (n : Int)) && decide ((n : Int) ≤ 18446744073709551615)) = true := by
    have hpower : (powerOfTwo 64 : Int) = 18446744073709551616 := by decide
    rw [Bool.and_eq_true, decide_eq_true_iff, decide_eq_true_iff]
    omega
  show toIndex (Number.int n).reread = .ok n
  rw [Number.reread_int (by omega) hhigh, toIndex, if_pos hrange, Int.toNat_natCast]

/-! ## Records -/

/-- The field reads the member from a value. -/
structure Field.Gives (f : Field Json ρ) (c : Cell ρ) : Prop extends f.Fits c where
  read : ∀ j, c.Form j → ∀ r, f.read j.reread r = .ok (c.put r)

section

variable {name : String} {read : Json → Reading α} {set : α → ρ → ρ} {Form : Json → Prop} {a : α}

theorem Field.Gives.optional (h : ∀ j, Form j → Json.Gives read j a) :
    Field.Gives (.optional name read set) ⟨name, false, Form, set a⟩ where
  name := rfl
  required := rfl
  read j hj r := by
    show (read j.reread).map (set · r) = _
    rw [h j hj]
    rfl

theorem Field.Gives.mandatory (h : ∀ j, Form j → Json.Gives read j a) :
    Field.Gives (.mandatory name read set) ⟨name, true, Form, set a⟩ where
  name := rfl
  required := rfl
  read j hj r := by
    show (read j.reread).map (set · r) = _
    rw [h j hj]
    rfl

end

section

variable {fields : List (Field Json ρ)} {cells : List (Cell ρ)} {blank x : ρ}
  {ms : List (String × Json)}

/-- What no field is for is passed over. -/
theorem readMembers_filter (ms : List (String × Json)) (given : List String) (r : ρ) :
    readMembers fields ms given r =
      readMembers fields (ms.filter fun m => (Field.find? fields m.1).isSome) given r := by
  induction ms generalizing given r with
  | nil => rfl
  | cons m ms ih =>
    obtain ⟨name, v⟩ := m
    rw [readMembers]
    cases hfind : Field.find? fields name with
    | none =>
      rw [List.filter_cons_of_neg (by simp [hfind])]
      exact ih given r
    | some f =>
      rw [List.filter_cons_of_pos (by simp [hfind]), readMembers, hfind]
      simp only [ih]

theorem isSome_find?_iff {name : String} :
    (Field.find? fields name).isSome ↔ name ∈ fields.map Field.name := by
  simp [Field.find?]

/-- The members of a record are read one after the other. -/
theorem readMembers_reread (hfields : List.Forall₂ Field.Gives fields cells)
    (hnodup : (cells.map Cell.name).Nodup) {cs : List (Cell ρ)}
    (hcs : List.Forall₂ (fun m c => c ∈ cells ∧ c.name = m.1 ∧ c.Form m.2) ms cs)
    (given : List String) (r : ρ) :
    readMembers fields (ms.map fun m => (m.1, m.2.reread)) given r =
      .ok (cs.foldl (fun r c => c.put r) r, (ms.map Prod.fst).reverse ++ given) := by
  induction hcs generalizing given r with
  | nil => rfl
  | @cons m c ms cs hmc _ ih =>
    obtain ⟨name, v⟩ := m
    obtain ⟨hc, hname, hv⟩ : c ∈ cells ∧ c.name = name ∧ c.Form v := hmc
    obtain ⟨f, hf, hgives⟩ := exists_field hfields hc
    have hfind : Field.find? fields name = some f := by
      rw [← hname, ← hgives.name]
      exact find?_field (names_eq (hfields.imp fun _ _ h => h.toFits) ▸ hnodup) hf
    rw [List.map_cons, readMembers, hfind]
    show (f.read v.reread r >>= fun r => readMembers fields _ (name :: given) r) = _
    rw [hgives.read v hv]
    refine (ih (name :: given) (c.put r)).trans ?_
    rw [List.map_cons, List.reverse_cons, List.append_assoc]
    rfl

/-- **Records.** An object that writes a record among other members is read as the record. -/
theorem gives_record (record : String) (hfields : List.Forall₂ Field.Gives fields cells)
    (hcells : Cell.Complete cells blank x) {j : Json} (hj : Cell.RendersAmong cells blank j) :
    Gives (readRecord record blank fields) j x := by
  obtain ⟨known, others, ns, rfl, hknown, hnames, hperm, hothers⟩ := hj
  have hfits : List.Forall₂ Field.Fits fields cells := hfields.imp fun _ _ h => h.toFits
  have hisKnown (m : String × Json) :
      (Field.find? fields m.1).isSome ↔ m.1 ∈ cells.map Cell.name := by
    rw [isSome_find?_iff, names_eq hfits]
  -- The members of the record, in the order in which they are met.
  let chosen := (sortMembers ns).filter fun m => (Field.find? fields m.1).isSome
  have hchosen : chosen.Perm known := by
    have hknown' : (known.filter fun m => (Field.find? fields m.1).isSome) = known := by
      refine List.filter_eq_self.2 fun m hm => (hisKnown m).2 ?_
      obtain ⟨c, hc, hname, -⟩ := hknown.form m hm
      exact List.mem_map.2 ⟨c, hc, hname⟩
    have hothers' : (others.filter fun m => (Field.find? fields m.1).isSome) = [] :=
      List.filter_eq_nil_iff.2 fun m hm => mt (hisKnown m).1 (hothers m hm)
    have hfilter := ((sortMembers_perm hnames).trans hperm).filter
      fun m => (Field.find? fields m.1).isSome
    rwa [List.filter_append, hknown', hothers', List.append_nil] at hfilter
  have hwrites : Cell.Writes cells blank chosen := hknown.of_perm hchosen
  obtain ⟨cs, hcs⟩ := hwrites.chosen
  have hmembers : readMembers fields ((sortMembers ns).map fun m => (m.1, m.2.reread)) [] blank =
      .ok (x, (chosen.map Prod.fst).reverse ++ []) := by
    rw [readMembers_filter, List.filter_map]
    refine (readMembers_reread hfields hcells.nodup hcs [] blank).trans ?_
    rw [hwrites.foldl_put hcells hcs]
  have hcheck : Field.checkGiven fields ((chosen.map Prod.fst).reverse ++ []) = .ok () := by
    have hgiven : ∀ name ∈ chosen.map Prod.fst, name ∈ (chosen.map Prod.fst).reverse ++ [] := by
      intro name hname
      rwa [List.append_nil, List.mem_reverse]
    exact checkGiven_of_missing hfits hgiven fun c hc hname => (hwrites.missing c hc hname).1
  rw [Gives, reread_object, readRecord, hmembers]
  show (Field.checkGiven fields _ >>= fun _ => Except.ok x) = _
  rw [hcheck]
  rfl

end

end FrameTree.Json
