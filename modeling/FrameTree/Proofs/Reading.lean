import FrameTree.Proofs.Growth
import FrameTree.Proofs.Scanning
import Mathlib.Data.List.Nodup

/-!
# Reading what was written

What a reader makes of a value that was printed, if it is a reader for values of that form
(`Json.Node.Reads`). Every reader is told how much room is left for nesting. It gives the whole
result if the value fits, and otherwise ends with the complaint that the text is too deep, whatever
else could be said (`Json.fitted`). So results of parts compose: the deeper part decides
(`Json.fitted_bind`).

**Records.** The members of an object come in any order, and those that a reader can do without may
be missing. A `Json.Cell` is a member of one record: the values that write it, and what it puts into
a record when it is read. If members with different names can be put in either order, then reading
an object gives the record that all its members make up (`Json.Node.reads_record`).

**What readers keep** (`Json.Field.Keeps`). What a blank record has, and every field keeps, holds
of every record that is read, whatever the text is (`Json.Node.readRecord_keeps`).

Main results: `Json.Node.reads_record` and `Json.Node.readRecord_keeps`.
-/

namespace FrameTree.Json

variable {α β ρ : Type}

/-! ## Nesting -/

mutual

/-- The number of lists and objects that are open at once in a value. -/
def nesting : Json → Nat
  | .array xs => 1 + itemNesting xs
  | .object ms => 1 + memberNesting ms
  | _ => 0

def itemNesting : List Json → Nat
  | [] => 0
  | x :: xs => max (nesting x) (itemNesting xs)

def memberNesting : List (String × Json) → Nat
  | [] => 0
  | (_, v) :: ms => max (nesting v) (memberNesting ms)

end

theorem nesting_array_le_iff {js : List Json} {k : Nat} :
    (array js).nesting ≤ k + 1 ↔ ∀ j ∈ js, j.nesting ≤ k := by
  have hitems : itemNesting js ≤ k ↔ ∀ j ∈ js, j.nesting ≤ k := by
    induction js with
    | nil => simp [itemNesting]
    | cons j js ih => rw [itemNesting, Nat.max_le, ih, List.forall_mem_cons]
  rw [nesting, ← hitems]
  omega

theorem memberNesting_le_iff {ms : List (String × Json)} {k : Nat} :
    memberNesting ms ≤ k ↔ ∀ m ∈ ms, m.2.nesting ≤ k := by
  induction ms with
  | nil => simp [memberNesting]
  | cons m ms ih => rw [memberNesting, Nat.max_le, ih, List.forall_mem_cons]

theorem nesting_object_le_iff {ms : List (String × Json)} {k : Nat} :
    (object ms).nesting ≤ k + 1 ↔ ∀ m ∈ ms, m.2.nesting ≤ k := by
  rw [nesting, ← memberNesting_le_iff]
  omega

/-- What is read from a value of some nesting: it has to fit into the room. -/
def fitted (room depth : Nat) (a : α) : Reading α :=
  if depth ≤ room then .ok a else .error (.malformed .tooDeep)

theorem fitted_zero (room : Nat) (a : α) : fitted room 0 a = .ok a := if_pos (Nat.zero_le room)

theorem fitted_map (room depth : Nat) (a : α) (f : α → β) :
    (fitted room depth a).map f = fitted room depth (f a) := by
  rw [fitted, fitted]
  split <;> rfl

theorem fitted_bind (room d e : Nat) (a : α) (f : α → β) :
    (fitted room d a >>= fun a => fitted room e (f a)) = fitted room (max d e) (f a) := by
  by_cases hd : d ≤ room
  · have hmax : max d e ≤ room ↔ e ≤ room := by omega
    rw [fitted, if_pos hd]
    exact if_congr hmax.symm rfl rfl
  · rw [fitted, if_neg hd, fitted, if_neg fun h => hd (by omega)]
    rfl

namespace Node

theorem takeRoom_bind (room d : Nat) (a : α) :
    (takeRoom room >>= fun _ => fitted (room - 1) d a) = fitted room (1 + d) a := by
  cases room with
  | zero =>
    have hdeep : fitted 0 (1 + d) a = .error (.malformed .tooDeep) := if_neg (by omega)
    rw [hdeep]
    rfl
  | succ room =>
    have hroom : d ≤ room + 1 - 1 ↔ 1 + d ≤ room + 1 := by omega
    exact if_congr hroom rfl rfl

/-! ## Values -/

/-- The reader takes a value for `a`, if its nesting fits into the room. The numbers of the value
survive printing. -/
structure Reads (read : Node → Reading α) (room : Nat) (j : Json) (a : α) : Prop where
  legible : j.Legible
  read_ofJson : read (ofJson j) = fitted room j.nesting a

variable {room : Nat}

theorem reads_string (s : String) : Reads readString room (.string s) s where
  legible _ h := nomatch h
  read_ofJson := (fitted_zero room s).symm

theorem reads_string? (s : String) : Reads readString? room (.string s) (some s) where
  legible _ h := nomatch h
  read_ofJson := (fitted_zero room (some s)).symm

theorem reads_bool (b : Bool) : Reads readBool room (.bool b) b where
  legible _ h := nomatch h
  read_ofJson := (fitted_zero room b).symm

theorem reads_int32 (i : Int32) : Reads readInt32 room (.ofInt32 i) i where
  legible n hn := by
    rw [List.mem_singleton.1 hn]
    exact Number.legible_int i.toInt
  read_ofJson := by
    have hlow := Int32.le_toInt i
    have hhigh := Int32.toInt_lt i
    have hvalue : (Number.int i.toInt).numeral.value = .ok (.int i.toInt) :=
      Number.value_numeral_int (Int.le_trans (by decide) hlow) (Int.lt_trans hhigh (by decide))
    have hrange : (decide (-2147483648 ≤ i.toInt) && decide (i.toInt ≤ 2147483647)) = true := by
      rw [Bool.and_eq_true, decide_eq_true_iff, decide_eq_true_iff]
      omega
    show (decoded (Number.int i.toInt).numeral.value >>= toInt32) = fitted room 0 i
    rw [hvalue, fitted_zero]
    show toInt32 (.int i.toInt) = .ok i
    rw [toInt32, if_pos hrange, Int32.ofInt_toInt]

theorem reads_code [Coded α] {a : α} (h : ofCode (Coded.code a) = .ok a) (codeRoom : Nat) :
    Reads (readCode codeRoom) room (.string (Coded.code a)) a where
  legible _ h := nomatch h
  read_ofJson := h.trans (fitted_zero room a).symm

/-! ## Lists -/

theorem legible_of_forall₂ {item : Node → Reading α} {js : List Json} {xs : List α}
    (h : List.Forall₂ (Reads item room) js xs) : ∀ j ∈ js, j.Legible := by
  induction h with
  | nil => simp
  | cons hj _ ih => exact List.forall_mem_cons.2 ⟨hj.legible, ih⟩

theorem mapM_ofItems {item : Node → Reading α} {js : List Json} {xs : List α}
    (h : List.Forall₂ (Reads item room) js xs) :
    (ofItems js).mapM item = fitted room (itemNesting js) xs := by
  induction h with
  | nil => exact (fitted_zero room []).symm
  | @cons j x js xs hj _ ih =>
    have hrest (x : α) : ((ofItems js).mapM item >>= fun xs => pure (x :: xs)) =
        fitted room (itemNesting js) (x :: xs) := by
      rw [ih]
      exact fitted_map room _ xs (x :: ·)
    rw [ofItems, List.mapM_cons, hj.read_ofJson]
    simp only [hrest]
    exact fitted_bind room _ _ x (· :: xs)

/-- A list takes room. Without any, no item is read. -/
theorem reads_list_of_pos {item : Node → Reading α} {js : List Json} {xs : List α}
    (hlegible : ∀ j ∈ js, j.Legible)
    (h : 0 < room → List.Forall₂ (Reads item (room - 1)) js xs) :
    Reads (readList room item) room (.array js) xs where
  legible := legible_array_iff.2 hlegible
  read_ofJson := by
    show (takeRoom room >>= fun _ => (ofItems js).mapM item >>= fun xs => .ok xs) =
      fitted room (1 + itemNesting js) xs
    by_cases hroom : 0 < room
    · have hbind : ((ofItems js).mapM item >>= fun xs => .ok xs) =
          fitted (room - 1) (itemNesting js) xs := by
        rw [mapM_ofItems (h hroom)]
        exact fitted_map _ _ xs id
      simp only [hbind]
      exact takeRoom_bind room _ xs
    · rw [Nat.eq_zero_of_not_pos hroom]
      exact (if_neg (by omega)).symm

theorem reads_list {item : Node → Reading α} {js : List Json} {xs : List α}
    (h : List.Forall₂ (Reads item (room - 1)) js xs) :
    Reads (readList room item) room (.array js) xs :=
  reads_list_of_pos (legible_of_forall₂ h) fun _ => h

end Node

/-! ## Records -/

/-- A member of a record, for one record that is written. -/
structure Cell (ρ : Type) where
  name : String
  required : Bool
  /-- The values that write the member. -/
  Form : Json → Prop
  /-- A record with the member as it is read. -/
  put : ρ → ρ

/-- The field is for the member. -/
structure Field.Fits {σ : Type} (f : Field σ ρ) (c : Cell ρ) : Prop where
  name : f.name = c.name
  required : f.required = c.required

/-- The field reads the member. -/
structure Field.Reads (room : Nat) (f : Field Node ρ) (c : Cell ρ) : Prop extends f.Fits c where
  legible : ∀ j, c.Form j → j.Legible
  read : ∀ j, c.Form j → ∀ r, f.read (Node.ofJson j) r = fitted room j.nesting (c.put r)

/-- Members of an object that write a record: they come in any order, and a member may be missing
if the blank record already has it. -/
structure Cell.Writes (cells : List (Cell ρ)) (blank : ρ) (ms : List (String × Json)) : Prop where
  nodup : (ms.map Prod.fst).Nodup
  form : ∀ m ∈ ms, ∃ c ∈ cells, c.name = m.1 ∧ c.Form m.2
  missing : ∀ c ∈ cells, c.name ∉ ms.map Prod.fst → c.required = false ∧ c.put blank = blank

/-- The value is an object that writes a record. -/
def Cell.Renders (cells : List (Cell ρ)) (blank : ρ) (j : Json) : Prop :=
  ∃ ms, j = .object ms ∧ Cell.Writes cells blank ms

/-- It makes no difference which of the two members is put into a record first. -/
def Cell.Commute (c d : Cell ρ) : Prop := ∀ r, c.put (d.put r) = d.put (c.put r)

/-- The members make up the record `x`, in whatever order they are put into the blank record. -/
structure Cell.Complete (cells : List (Cell ρ)) (blank x : ρ) : Prop where
  nodup : (cells.map Cell.name).Nodup
  commute : cells.Pairwise Cell.Commute
  whole : cells.foldl (fun r c => c.put r) blank = x

theorem Field.Reads.optional {room : Nat} {name : String} {read : Node → Reading α}
    {set : α → ρ → ρ} {Form : Json → Prop} {a : α} (h : ∀ j, Form j → Node.Reads read room j a) :
    Field.Reads room (.optional name read set) ⟨name, false, Form, set a⟩ where
  name := rfl
  required := rfl
  legible j hj := (h j hj).legible
  read j hj r := by
    show (read (Node.ofJson j)).map (set · r) = _
    rw [(h j hj).read_ofJson, fitted_map]

theorem Field.Reads.mandatory {room : Nat} {name : String} {read : Node → Reading α}
    {set : α → ρ → ρ} {Form : Json → Prop} {a : α} (h : ∀ j, Form j → Node.Reads read room j a) :
    Field.Reads room (.mandatory name read set) ⟨name, true, Form, set a⟩ where
  name := rfl
  required := rfl
  legible j hj := (h j hj).legible
  read j hj r := by
    show (read (Node.ofJson j)).map (set · r) = _
    rw [(h j hj).read_ofJson, fitted_map]

section

variable {fields : List (Field Node ρ)} {cells : List (Cell ρ)} {blank x : ρ}
  {ms : List (String × Json)} {room : Nat}

/-- The cells of the members that are there, in their order. -/
theorem Cell.Writes.chosen (h : Cell.Writes cells blank ms) :
    ∃ cs, List.Forall₂ (fun m c => c ∈ cells ∧ c.name = m.1 ∧ c.Form m.2) ms cs := by
  have hform := h.form
  clear h
  induction ms with
  | nil => exact ⟨[], .nil⟩
  | cons m ms ih =>
    obtain ⟨c, hc, hname, hm⟩ := hform m List.mem_cons_self
    obtain ⟨cs, hcs⟩ := ih fun m hm => hform m (List.mem_cons_of_mem _ hm)
    exact ⟨c :: cs, .cons ⟨hc, hname, hm⟩ hcs⟩

theorem foldl_put_of_fixed (h : ∀ c ∈ cells, c.put blank = blank) :
    cells.foldl (fun r c => c.put r) blank = blank := by
  induction cells with
  | nil => rfl
  | cons c cells ih =>
    rw [List.foldl_cons, h c List.mem_cons_self]
    exact ih fun c hc => h c (List.mem_cons_of_mem _ hc)

/-- The members that are there make up the whole record. -/
theorem Cell.Writes.foldl_put (h : Cell.Writes cells blank ms) (hcells : Cell.Complete cells blank x)
    {cs : List (Cell ρ)}
    (hcs : List.Forall₂ (fun m c => c ∈ cells ∧ c.name = m.1 ∧ c.Form m.2) ms cs) :
    cs.foldl (fun r c => c.put r) blank = x := by
  have hnames : cs.map Cell.name = ms.map Prod.fst := by
    clear h
    induction hcs with
    | nil => rfl
    | cons hmc _ ih => rw [List.map_cons, List.map_cons, ih, hmc.2.1]
  have hmem : ∀ c ∈ cs, c ∈ cells := by
    clear h hnames
    induction hcs with
    | nil => simp
    | cons hmc _ ih => exact List.forall_mem_cons.2 ⟨hmc.1, ih⟩
  let given (c : Cell ρ) : Bool := decide (c.name ∈ ms.map Prod.fst)
  have hgiven : (cells.filter given).Perm cs := by
    refine (List.perm_ext_iff_of_nodup (hcells.nodup.of_map.filter given)
      (List.Nodup.of_map Cell.name (hnames ▸ h.nodup))).2 fun c => ?_
    rw [List.mem_filter, decide_eq_true_iff]
    constructor
    · rintro ⟨hc, hname⟩
      rw [← hnames] at hname
      obtain ⟨d, hd, hname⟩ := List.mem_map.1 hname
      rwa [← List.inj_on_of_nodup_map hcells.nodup (hmem d hd) hc hname]
    · intro hc
      exact ⟨hmem c hc, hnames ▸ List.mem_map_of_mem hc⟩
  -- What is missing comes first, where it changes nothing.
  have hperm : cells.Perm (cells.filter (fun c => !given c) ++ cs) :=
    (List.filter_append_perm given cells).symm.trans
      ((hgiven.append_right _).trans List.perm_append_comm)
  have hcommute : ∀ c ∈ cells, ∀ d ∈ cells, ∀ r, d.put (c.put r) = c.put (d.put r) := by
    have hsymm : cells.Pairwise (flip Cell.Commute) :=
      hcells.commute.imp fun hcd r => (hcd r).symm
    have hall := hcells.commute.forall_of_forall_of_flip (fun _ _ _ => rfl) hsymm
    exact fun c hc d hd => hall hd hc
  have hmissing : (cells.filter fun c => !given c).foldl (fun r c => c.put r) blank = blank := by
    refine foldl_put_of_fixed fun c hc => ?_
    obtain ⟨hc, hname⟩ := List.mem_filter.1 hc
    have hname : c.name ∉ ms.map Prod.fst := by simpa [given] using hname
    exact (h.missing c hc hname).2
  calc cs.foldl (fun r c => c.put r) blank
      = (cells.filter (fun c => !given c) ++ cs).foldl (fun r c => c.put r) blank := by
        rw [List.foldl_append, hmissing]
    _ = cells.foldl (fun r c => c.put r) blank := (hperm.foldl_eq' hcommute blank).symm
    _ = x := hcells.whole

/-! ### Members in the order of the cells -/

/-- The members stand in the order of their cells. -/
inductive Cell.Listed (blank : ρ) : List (Cell ρ) → List (String × Json) → Prop
  | nil : Listed blank [] []
  | given {c : Cell ρ} {cells : List (Cell ρ)} {ms : List (String × Json)} {j : Json}
      (hform : c.Form j) (h : Listed blank cells ms) : Listed blank (c :: cells) ((c.name, j) :: ms)
  | missing {c : Cell ρ} {cells : List (Cell ρ)} {ms : List (String × Json)}
      (hrequired : c.required = false) (hput : c.put blank = blank) (h : Listed blank cells ms) :
      Listed blank (c :: cells) ms

theorem Cell.Listed.sublist (h : Cell.Listed blank cells ms) :
    (ms.map Prod.fst).Sublist (cells.map Cell.name) := by
  induction h with
  | nil => exact .slnil
  | given _ _ ih => exact ih.cons_cons _
  | missing _ _ _ ih => exact ih.cons _

theorem Cell.Listed.writes (h : Cell.Listed blank cells ms) (hnodup : (cells.map Cell.name).Nodup) :
    Cell.Writes cells blank ms where
  nodup := h.sublist.nodup hnodup
  form := by
    clear hnodup
    induction h with
    | nil => simp
    | @given c _ _ _ hform _ ih =>
      refine List.forall_mem_cons.2 ⟨⟨c, List.mem_cons_self, rfl, hform⟩, fun m hm => ?_⟩
      obtain ⟨d, hd, hname, hform⟩ := ih m hm
      exact ⟨d, List.mem_cons_of_mem _ hd, hname, hform⟩
    | missing _ _ _ ih =>
      intro m hm
      obtain ⟨d, hd, hname, hform⟩ := ih m hm
      exact ⟨d, List.mem_cons_of_mem _ hd, hname, hform⟩
  missing := by
    clear hnodup
    induction h with
    | nil => simp
    | given _ _ ih =>
      refine List.forall_mem_cons.2 ⟨fun hname => absurd List.mem_cons_self hname, ?_⟩
      exact fun d hd hname => ih d hd fun hmem => hname (List.mem_cons_of_mem _ hmem)
    | missing hrequired hput _ ih =>
      exact List.forall_mem_cons.2 ⟨fun _ => ⟨hrequired, hput⟩, ih⟩

end

/-! ### Fields and cells -/

section

variable {σ : Type} {fields : List (Field σ ρ)} {cells : List (Cell ρ)}

theorem find?_field {f : Field σ ρ} (hnodup : (fields.map Field.name).Nodup)
    (hf : f ∈ fields) : Field.find? fields f.name = some f := by
  induction fields with
  | nil => cases hf
  | cons g fields ih =>
    rw [List.map_cons, List.nodup_cons] at hnodup
    rw [Field.find?, List.find?_cons]
    rcases List.mem_cons.1 hf with rfl | hf
    · rw [beq_self_eq_true]
    · have hne : (g.name == f.name) = false :=
        beq_false_of_ne fun heq => hnodup.1 (heq ▸ List.mem_map_of_mem hf)
      rw [hne]
      exact ih hnodup.2 hf

theorem names_eq (hfields : List.Forall₂ Field.Fits fields cells) :
    fields.map Field.name = cells.map Cell.name := by
  induction hfields with
  | nil => rfl
  | cons hfc _ ih => rw [List.map_cons, List.map_cons, hfc.name, ih]

variable {P : Field σ ρ → Cell ρ → Prop}

theorem exists_field (hfields : List.Forall₂ P fields cells) {c : Cell ρ} (hc : c ∈ cells) :
    ∃ f ∈ fields, P f c := by
  induction hfields with
  | nil => cases hc
  | cons hfc _ ih =>
    rcases List.mem_cons.1 hc with rfl | hc
    · exact ⟨_, List.mem_cons_self, hfc⟩
    · obtain ⟨f, hf, hread⟩ := ih hc
      exact ⟨f, List.mem_cons_of_mem _ hf, hread⟩

theorem exists_cell (hfields : List.Forall₂ P fields cells) {f : Field σ ρ} (hf : f ∈ fields) :
    ∃ c ∈ cells, P f c := by
  induction hfields with
  | nil => cases hf
  | cons hfc _ ih =>
    rcases List.mem_cons.1 hf with rfl | hf
    · exact ⟨_, List.mem_cons_self, hfc⟩
    · obtain ⟨c, hc, hread⟩ := ih hf
      exact ⟨c, List.mem_cons_of_mem _ hc, hread⟩

theorem checkGiven_of_missing (hfields : List.Forall₂ Field.Fits fields cells)
    {names given : List String} (hgiven : ∀ name ∈ names, name ∈ given)
    (hmissing : ∀ c ∈ cells, c.name ∉ names → c.required = false) :
    Field.checkGiven fields given = .ok () := by
  have hnone : (fields.find? fun f => f.required && !given.contains f.name) = none := by
    rw [List.find?_eq_none]
    intro f hf hneeded
    obtain ⟨c, hc, hfits⟩ := exists_cell hfields hf
    rw [Bool.and_eq_true, Bool.not_eq_true', ← Bool.not_eq_true, List.contains_iff_mem,
      hfits.name, hfits.required] at hneeded
    have := hmissing c hc fun hname => hneeded.2 (hgiven c.name hname)
    rw [this] at hneeded
    exact Bool.false_ne_true hneeded.1
  rw [Field.checkGiven, hnone]

end

/-! ### Reading the members -/

section

variable {fields : List (Field Node ρ)} {cells : List (Cell ρ)} {blank x : ρ}
  {ms : List (String × Json)} {room : Nat}

/-- The members are read one after the other, each into the record that those before it left. -/
theorem readMembers_ofMembers (hfields : List.Forall₂ (Field.Reads room) fields cells)
    (hnodup : (cells.map Cell.name).Nodup) {cs : List (Cell ρ)}
    (hcs : List.Forall₂ (fun m c => c ∈ cells ∧ c.name = m.1 ∧ c.Form m.2) ms cs)
    (hms : (ms.map Prod.fst).Nodup) (given : List String)
    (hgiven : ∀ name ∈ ms.map Prod.fst, name ∉ given) (r : ρ) :
    Node.readMembers fields (Node.ofMembers ms) given r =
      fitted room (memberNesting ms)
        (cs.foldl (fun r c => c.put r) r, (ms.map Prod.fst).reverse ++ given) := by
  induction hcs generalizing given r with
  | nil => exact (fitted_zero room (r, given)).symm
  | @cons m c ms cs hmc _ ih =>
    obtain ⟨name, v⟩ := m
    obtain ⟨hc, hname, hv⟩ : c ∈ cells ∧ c.name = name ∧ c.Form v := hmc
    rw [List.map_cons, List.nodup_cons] at hms
    rw [List.map_cons, List.forall_mem_cons] at hgiven
    obtain ⟨f, hf, hread⟩ := exists_field hfields hc
    have hfind : Field.find? fields name = some f := by
      rw [← hname, ← hread.name]
      exact find?_field (names_eq (hfields.imp fun _ _ h => h.toFits) ▸ hnodup) hf
    have hfresh : given.contains name = false := by
      rw [← Bool.not_eq_true, List.contains_iff_mem]
      exact hgiven.1
    have hlater : ∀ r, Node.readMembers fields (Node.ofMembers ms) (name :: given) r =
        fitted room (memberNesting ms) (cs.foldl (fun r c => c.put r) r,
          (ms.map Prod.fst).reverse ++ name :: given) := by
      refine ih hms.2 (name :: given) fun other hother => ?_
      rw [List.mem_cons, not_or]
      exact ⟨fun heq => hms.1 (heq ▸ hother), hgiven.2 other hother⟩
    have hdecoded : decoded (Literal.ofString name).text = pure name := rfl
    rw [Node.ofMembers, Node.readMembers, hdecoded, pure_bind, hfind]
    dsimp only
    rw [hfresh]
    show (f.read (Node.ofJson v) r >>= fun r =>
      Node.readMembers fields (Node.ofMembers ms) (name :: given) r) = _
    simp only [hread.read v hv, hlater]
    rw [fitted_bind room _ _ (c.put r), List.map_cons, List.reverse_cons, List.append_assoc]
    rfl

/-- **Records.** An object that writes a record is read as the record. -/
theorem Node.reads_record (record : String)
    (hfields : List.Forall₂ (Field.Reads (room - 1)) fields cells)
    (hcells : Cell.Complete cells blank x) {j : Json} (hj : Cell.Renders cells blank j) :
    Node.Reads (Node.readRecord record room blank fields) room j x := by
  obtain ⟨ms, rfl, hms⟩ := hj
  obtain ⟨cs, hcs⟩ := hms.chosen
  have hmembers := readMembers_ofMembers hfields hcells.nodup hcs hms.nodup []
    (fun _ _ h => nomatch h) blank
  rw [hms.foldl_put hcells hcs] at hmembers
  have hgiven : ∀ name ∈ ms.map Prod.fst, name ∈ (ms.map Prod.fst).reverse ++ [] := by
    intro name hname
    rwa [List.append_nil, List.mem_reverse]
  have hcheck : Field.checkGiven fields ((ms.map Prod.fst).reverse ++ []) = .ok () :=
    checkGiven_of_missing (hfields.imp fun _ _ h => h.toFits) hgiven fun c hc hname =>
      (hms.missing c hc hname).1
  have hrest : (Node.readMembers fields (ofMembers ms) [] blank >>= fun p =>
      Field.checkGiven fields p.2 >>= fun _ => .ok p.1) =
        fitted (room - 1) (memberNesting ms) x := by
    rw [hmembers, fitted, fitted]
    split
    · show (Field.checkGiven fields _ >>= fun _ => _) = _
      rw [hcheck]
      rfl
    · rfl
  constructor
  · rw [legible_object_iff]
    intro m hm
    obtain ⟨c, hc, -, hform⟩ := hms.form m hm
    obtain ⟨f, -, hread⟩ := exists_field hfields hc
    exact hread.legible m.2 hform
  · show (takeRoom room >>= fun _ => Node.readMembers fields (ofMembers ms) [] blank >>= fun p =>
      Field.checkGiven fields p.2 >>= fun _ => .ok p.1) = fitted room (1 + memberNesting ms) x
    rw [hrest]
    exact takeRoom_bind room _ x

end

/-! ## What every reading keeps -/

section

variable {P : ρ → Prop} {fields : List (Field Node ρ)}

/-- Reading the field keeps the property. -/
def Field.Keeps (P : ρ → Prop) (f : Field Node ρ) : Prop :=
  ∀ n r r', f.read n r = .ok r' → P r → P r'

theorem map_eq_ok_iff {x : Reading α} {f : α → β} {b : β} :
    x.map f = .ok b ↔ ∃ a, x = .ok a ∧ f a = b := by
  constructor
  · intro h
    cases x with
    | error e => cases h
    | ok a => exact ⟨a, rfl, Except.ok.inj h⟩
  · rintro ⟨a, rfl, rfl⟩
    rfl

theorem Field.Keeps.optional {name : String} {read : Node → Reading α} {set : α → ρ → ρ}
    (h : ∀ n a, read n = .ok a → ∀ r, P r → P (set a r)) :
    Field.Keeps P (.optional name read set) := by
  intro n r r' hread hr
  obtain ⟨a, ha, rfl⟩ := map_eq_ok_iff.1 hread
  exact h n a ha r hr

theorem Field.Keeps.mandatory {name : String} {read : Node → Reading α} {set : α → ρ → ρ}
    (h : ∀ n a, read n = .ok a → ∀ r, P r → P (set a r)) :
    Field.Keeps P (.mandatory name read set) := by
  intro n r r' hread hr
  obtain ⟨a, ha, rfl⟩ := map_eq_ok_iff.1 hread
  exact h n a ha r hr

theorem readItems_keeps {record : String} {all : List (Field Node ρ)}
    (hfields : ∀ f ∈ fields, f.Keeps P) {items rest : List Node} {r r' : ρ}
    (h : Field.readItems record all fields items r = .ok (r', rest)) (hr : P r) : P r' := by
  induction fields generalizing items r with
  | nil =>
    cases h
    exact hr
  | cons f fields ih =>
    obtain ⟨hf, hfields⟩ := List.forall_mem_cons.1 hfields
    cases items with
    | nil =>
      rw [Field.readItems] at h
      split at h
      · cases h
      · cases h
        exact hr
    | cons n items =>
      obtain ⟨r₁, hr₁, h⟩ := bind_eq_ok_iff.1 h
      exact ih hfields h (hf n r r₁ hr₁ hr)

theorem readMembers_keeps (hfields : ∀ f ∈ fields, f.Keeps P) {ms : List (Literal × Node)}
    {given given' : List String} {r r' : ρ}
    (h : Node.readMembers fields ms given r = .ok (r', given')) (hr : P r) : P r' := by
  induction ms generalizing given r with
  | nil =>
    cases h
    exact hr
  | cons m ms ih =>
    obtain ⟨l, n⟩ := m
    rw [Node.readMembers] at h
    obtain ⟨name, -, h⟩ := bind_eq_ok_iff.1 h
    cases hfind : Field.find? fields name with
    | none =>
      rw [hfind] at h
      obtain ⟨-, -, h⟩ := bind_eq_ok_iff.1 h
      exact ih h hr
    | some f =>
      rw [hfind] at h
      dsimp only at h
      split at h
      · cases h
      · obtain ⟨r₁, hr₁, h⟩ := bind_eq_ok_iff.1 h
        exact ih h (hfields f (List.mem_of_find?_eq_some hfind) n r r₁ hr₁ hr)

theorem Node.refuse_ne_ok (expected : String) (n : Node) (a : α) :
    (n.refuse expected : Reading α) ≠ .ok a := by
  intro h
  obtain ⟨what, -, h⟩ := bind_eq_ok_iff.1 h
  cases h

/-- What the blank record has and every field keeps holds of what is read. -/
theorem Node.readRecord_keeps {record : String} {room : Nat} {blank x : ρ} {n : Node}
    (hblank : P blank) (hfields : ∀ f ∈ fields, f.Keeps P)
    (h : Node.readRecord record room blank fields n = .ok x) : P x := by
  cases n with
  | object members stop =>
    obtain ⟨-, -, h⟩ := bind_eq_ok_iff.1 h
    obtain ⟨⟨r, given⟩, hr, h⟩ := bind_eq_ok_iff.1 h
    obtain ⟨-, -, h⟩ := bind_eq_ok_iff.1 h
    obtain ⟨-, -, h⟩ := bind_eq_ok_iff.1 h
    cases h
    exact readMembers_keeps hfields hr hblank
  | array items stop =>
    obtain ⟨-, -, h⟩ := bind_eq_ok_iff.1 h
    obtain ⟨⟨r, rest⟩, hr, h⟩ := bind_eq_ok_iff.1 h
    have hx : x = r := by
      cases rest with
      | nil =>
        obtain ⟨-, -, h⟩ := bind_eq_ok_iff.1 h
        cases h
        rfl
      | cons n rest => cases h
    rw [hx]
    rw [readRecord.listRecord] at hr
    split at hr
    · obtain ⟨⟨r₁, rest₁⟩, hr₁, hr⟩ := bind_eq_ok_iff.1 hr
      obtain ⟨-, -, hr⟩ := bind_eq_ok_iff.1 hr
      obtain ⟨⟨r₂, rest₂⟩, hr₂, hr⟩ := bind_eq_ok_iff.1 hr
      cases hr
      have htaken := readItems_keeps (fun f hf => hfields f (List.mem_of_mem_take hf)) hr₁ hblank
      exact readItems_keeps (fun f hf => hfields f (List.mem_of_mem_drop hf)) hr₂ htaken
    · exact readItems_keeps hfields hr hblank
  | keyless =>
    obtain ⟨-, -, h⟩ := bind_eq_ok_iff.1 h
    cases h
  | _ => exact absurd h (refuse_ne_ok _ _ x)

/-- Everything in a list was read by the reader of its items. -/
theorem Node.forall_mem_of_readList {room : Nat} {item : Node → Reading α} {Q : α → Prop}
    {n : Node} {xs : List α} (h : Node.readList room item n = .ok xs)
    (hitem : ∀ n x, item n = .ok x → Q x) : ∀ x ∈ xs, Q x := by
  cases n with
  | array items stop =>
    obtain ⟨-, -, h⟩ := bind_eq_ok_iff.1 h
    obtain ⟨ys, hys, h⟩ := bind_eq_ok_iff.1 h
    obtain ⟨-, -, h⟩ := bind_eq_ok_iff.1 h
    cases h
    exact forall_mem_of_mapM hys hitem
  | _ => exact absurd h (refuse_ne_ok _ _ xs)

/-- What a text is read as is what some node is read as. -/
theorem Node.readText_eq_ok {read : Node → Reading α} {text : String} {a : α}
    (h : Node.readText read text = .ok a) : ∃ n, read n = .ok a := by
  obtain ⟨b, hb, h⟩ := bind_eq_ok_iff.1 h
  refine ⟨(scan text).1, ?_⟩
  have hab : b = a := by
    split at h
    · split at h
      · exact Except.ok.inj h
      · cases h
    · cases h
  rw [← hab]
  exact hb

end

end FrameTree.Json
