import FrameTree.Proofs.Rendering

/-!
# Values in other words

A record can be written as JSON in several ways: the members of an object come in any order, members
that have their default value may be left out, and a reader that does not mind them allows members
that nobody asked for.

**Formats** (`Json.Format`). What can be changed depends on the kind of a record. A format lists,
for every kind, the members that may be left out, those that are lists of records, and the names
that members may be added under.

**Variants** (`Json.Format.Variant`). A value in other words, changed at any number of places on any
level.

**Cells** (`Json.Cell.Printed`). If the printed members of a record and all variants of their values
are what its cells ask for, then the printed record is a variant of itself, and every variant of it
writes the record, with the members that were added beside it (`Json.Cell.Printed.worded`). A
printed record is shown to be such a list one member after the other.
-/

namespace FrameTree.Json

variable {κ ρ α : Type}

/-! ## Formats -/

/-- How records of several kinds can be written as objects. -/
structure Format (κ : Type) where
  /-- The members that may be left out, with the value that they have then. -/
  defaults : κ → List (String × Json)
  /-- The members that are lists of records, with the kind of the records. -/
  lists : κ → List (String × κ)
  /-- The names of members that may be added. -/
  Foreign : κ → String → Prop

mutual

/-- The second value is the first in other words: a record of some kind, with its members in any
order, some members left out and some added, and the records in its lists in other words. -/
inductive Format.Variant (S : Format κ) : κ → Json → Json → Prop
  | record {k : κ} {ms kept added ns : List (String × Json)} (hkept : S.Kept k ms kept)
      (hadded : ∀ m ∈ added, S.Foreign k m.1) (hnodup : (ns.map Prod.fst).Nodup)
      (hperm : ns.Perm (kept ++ added)) : S.Variant k (.object ms) (.object ns)

/-- The members that are kept, in the order in which they were. -/
inductive Format.Kept (S : Format κ) : κ → List (String × Json) → List (String × Json) → Prop
  | nil {k : κ} : S.Kept k [] []
  | leave {k : κ} {name : String} {v : Json} {ms ns : List (String × Json)}
      (hdefault : (S.defaults k).lookup name = some v) (hrest : S.Kept k ms ns) :
      S.Kept k ((name, v) :: ms) ns
  | keep {k : κ} {name : String} {v w : Json} {ms ns : List (String × Json)}
      (hvalue : S.ValueVariant ((S.lists k).lookup name) v w) (hrest : S.Kept k ms ns) :
      S.Kept k ((name, v) :: ms) ((name, w) :: ns)

/-- The value of a member: a list of records of some kind, or anything else. -/
inductive Format.ValueVariant (S : Format κ) : Option κ → Json → Json → Prop
  | same (v : Json) : S.ValueVariant none v v
  | list {k : κ} {xs ys : List Json} (hitems : S.ItemVariants k xs ys) :
      S.ValueVariant (some k) (.array xs) (.array ys)

inductive Format.ItemVariants (S : Format κ) : κ → List Json → List Json → Prop
  | nil {k : κ} : S.ItemVariants k [] []
  | cons {k : κ} {x y : Json} {xs ys : List Json} (hitem : S.Variant k x y)
      (hrest : S.ItemVariants k xs ys) : S.ItemVariants k (x :: xs) (y :: ys)

end

namespace Format

variable {S : Format κ} {k : κ}

/-- The value is one of its variants, and all of its variants have the form. -/
structure Worded (S : Format κ) (k : κ) (j : Json) (Form : Json → Prop) : Prop where
  self : S.Variant k j j
  form : ∀ w, S.Variant k j w → Form w

/-- The same for the items of a list. -/
structure AllWorded (S : Format κ) (k : κ) (js : List Json) (Form : List Json → Prop) : Prop where
  self : S.ItemVariants k js js
  form : ∀ ws, S.ItemVariants k js ws → Form ws

theorem AllWorded.nil : S.AllWorded k [] (· = []) where
  self := .nil
  form ws h := by
    cases h
    rfl

theorem AllWorded.cons {j : Json} {js : List Json} {Form : Json → Prop} {Rest : List Json → Prop}
    (h : S.Worded k j Form) (hrest : S.AllWorded k js Rest) :
    S.AllWorded k (j :: js) fun ws => ∃ w ws', ws = w :: ws' ∧ Form w ∧ Rest ws' where
  self := .cons h.self hrest.self
  form ws hws := by
    cases hws with
    | cons hitem hitems => exact ⟨_, _, rfl, h.form _ hitem, hrest.form _ hitems⟩

/-- Records that are printed one by one. -/
theorem AllWorded.map {toJson : α → Json} {Renders : α → Json → Prop} {xs : List α}
    (h : ∀ x ∈ xs, S.Worded k (toJson x) (Renders x)) :
    S.AllWorded k (xs.map toJson) fun js => List.Forall₂ (fun j x => Renders x j) js xs := by
  induction xs with
  | nil =>
    refine ⟨.nil, fun ws hws => ?_⟩
    cases hws
    exact .nil
  | cons x xs ih =>
    obtain ⟨hx, hxs⟩ := List.forall_mem_cons.1 h
    refine ⟨.cons hx.self (ih hxs).self, fun ws hws => ?_⟩
    cases hws with
    | cons hitem hitems => exact .cons (hx.form _ hitem) ((ih hxs).form _ hitems)

/-- Members in another order, with nothing added. -/
theorem Variant.of_kept {ms kept ns : List (String × Json)} (hkept : S.Kept k ms kept)
    (hnodup : (ns.map Prod.fst).Nodup) (hperm : ns.Perm kept) :
    S.Variant k (.object ms) (.object ns) := by
  have hadded : ∀ m ∈ ([] : List (String × Json)), S.Foreign k m.1 := by simp
  refine .record hkept hadded hnodup ?_
  rwa [List.append_nil]

theorem Kept.sublist {ms ns : List (String × Json)} (h : S.Kept k ms ns) :
    (ns.map Prod.fst).Sublist (ms.map Prod.fst) := by
  induction ms generalizing ns with
  | nil =>
    cases h
    exact .slnil
  | cons m ms ih =>
    cases h with
    | leave _ hrest => exact (ih hrest).cons _
    | keep _ hrest => exact (ih hrest).cons_cons _

end Format

/-! ## Cells -/

namespace Cell

variable {S : Format κ} {k : κ} {blank x : ρ} {cells : List (Cell ρ)} {ms ns : List (String × Json)}

/-- Members as they are printed, in the order of their cells. Whatever the value of a member is
turned into, its cell takes it, and a member that may be left out is one that the blank record
already has. -/
inductive Printed (S : Format κ) (k : κ) (blank : ρ) :
    List (Cell ρ) → List (String × Json) → Prop
  | nil : Printed S k blank [] []
  | given {c : Cell ρ} {cells : List (Cell ρ)} {ms : List (String × Json)} {v : Json}
      (hself : S.ValueVariant ((S.lists k).lookup c.name) v v)
      (hform : ∀ w, S.ValueVariant ((S.lists k).lookup c.name) v w → c.Form w)
      (hleave : (S.defaults k).lookup c.name = some v → c.required = false ∧ c.put blank = blank)
      (h : Printed S k blank cells ms) : Printed S k blank (c :: cells) ((c.name, v) :: ms)
  | missing {c : Cell ρ} {cells : List (Cell ρ)} {ms : List (String × Json)}
      (hrequired : c.required = false) (hput : c.put blank = blank)
      (h : Printed S k blank cells ms) : Printed S k blank (c :: cells) ms

section

variable {c : Cell ρ}

/-- A member that is no list of records is changed by being left out only. -/
theorem Printed.single {v : Json} (hplain : (S.lists k).lookup c.name = none) (hform : c.Form v)
    (hleave : (S.defaults k).lookup c.name = some v → c.required = false ∧ c.put blank = blank)
    (h : Printed S k blank cells ms) : Printed S k blank (c :: cells) ((c.name, v) :: ms) := by
  refine .given ?_ ?_ hleave h
  · rw [hplain]
    exact .same v
  · intro w hw
    rw [hplain] at hw
    cases hw
    exact hform

/-- A member that may be left out. -/
theorem Printed.plain {v w : Json} (hplain : (S.lists k).lookup c.name = none) (hform : c.Form v)
    (hdefault : (S.defaults k).lookup c.name = some w)
    (hleave : v = w → c.required = false ∧ c.put blank = blank) (h : Printed S k blank cells ms) :
    Printed S k blank (c :: cells) ((c.name, v) :: ms) := by
  refine .single hplain hform ?_ h
  intro hv
  rw [hdefault] at hv
  exact hleave (Option.some.inj hv).symm

/-- A member that is never left out. -/
theorem Printed.fixed {v : Json} (hplain : (S.lists k).lookup c.name = none) (hform : c.Form v)
    (hdefault : (S.defaults k).lookup c.name = none) (h : Printed S k blank cells ms) :
    Printed S k blank (c :: cells) ((c.name, v) :: ms) := by
  refine .single hplain hform ?_ h
  intro hv
  rw [hdefault] at hv
  cases hv

/-- A list of records, which may be left out when it is empty. -/
theorem Printed.list {kind : κ} {js : List Json} {Form : List Json → Prop}
    (hlist : (S.lists k).lookup c.name = some kind) (hitems : S.AllWorded kind js Form)
    (hform : ∀ ws, Form ws → c.Form (.array ws))
    (hdefault : (S.defaults k).lookup c.name = some (.array []))
    (hleave : Form [] → c.required = false ∧ c.put blank = blank)
    (h : Printed S k blank cells ms) :
    Printed S k blank (c :: cells) ((c.name, .array js) :: ms) := by
  refine .given ?_ ?_ ?_ h
  · rw [hlist]
    exact .list hitems.self
  · intro w hw
    rw [hlist] at hw
    cases hw with
    | list hws => exact hform _ (hitems.form _ hws)
  · intro hv
    rw [hdefault] at hv
    cases hv
    exact hleave (hitems.form [] .nil)

end

/-- The members that are kept are listed by the cells. -/
theorem Printed.listed (h : Printed S k blank cells ms) (hkept : S.Kept k ms ns) :
    Listed blank cells ns := by
  induction h generalizing ns with
  | nil =>
    cases hkept
    exact .nil
  | given _ hform hleave _ ih =>
    cases hkept with
    | leave hdefault hrest =>
      obtain ⟨hrequired, hput⟩ := hleave hdefault
      exact .missing hrequired hput (ih hrest)
    | keep hvalue hrest => exact .given (hform _ hvalue) (ih hrest)
  | missing hrequired hput _ ih => exact .missing hrequired hput (ih hkept)

theorem Printed.kept_self (h : Printed S k blank cells ms) : S.Kept k ms ms := by
  induction h with
  | nil => exact .nil
  | given hself _ _ _ ih => exact .keep hself ih
  | missing _ _ _ ih => exact ih

/-- The printed record is one of its variants. -/
theorem Printed.variant_self (h : Printed S k blank cells ms) (hnodup : (cells.map name).Nodup) :
    S.Variant k (.object ms) (.object ms) :=
  .of_kept h.kept_self ((h.listed h.kept_self).sublist.nodup hnodup) (.refl ms)

theorem Writes.of_perm (h : Writes cells blank ms) (hperm : ns.Perm ms) :
    Writes cells blank ns where
  nodup := (hperm.map Prod.fst).nodup_iff.2 h.nodup
  form m hm := h.form m (hperm.mem_iff.1 hm)
  missing c hc hname := h.missing c hc fun hmem => hname ((hperm.map Prod.fst).mem_iff.2 hmem)

/-- The value is an object that writes the record, with other members among those of the record. -/
def RendersAmong (cells : List (Cell ρ)) (blank : ρ) (j : Json) : Prop :=
  ∃ known others ns, j = .object ns ∧ Writes cells blank known ∧ (ns.map Prod.fst).Nodup ∧
    ns.Perm (known ++ others) ∧ ∀ m ∈ others, m.1 ∉ cells.map name

/-- **Variants.** Every variant of a printed record writes the record, if no members may be added
under the names of its own. -/
theorem Printed.worded (h : Printed S k blank cells ms) (hnodup : (cells.map name).Nodup)
    (hforeign : ∀ name, S.Foreign k name → name ∉ cells.map Cell.name) :
    S.Worded k (.object ms) (RendersAmong cells blank) := by
  refine ⟨h.variant_self hnodup, fun j hj => ?_⟩
  cases hj with
  | record hkept hadded hnames hperm =>
    exact ⟨_, _, _, rfl, (h.listed hkept).writes hnodup, hnames, hperm,
      fun m hm => hforeign _ (hadded m hm)⟩

/-- The same where no members may be added. -/
theorem Printed.worded_closed (h : Printed S k blank cells ms) (hnodup : (cells.map name).Nodup)
    (hclosed : ∀ name, ¬S.Foreign k name) :
    S.Worded k (.object ms) (Renders cells blank) := by
  refine ⟨h.variant_self hnodup, fun j hj => ?_⟩
  cases hj with
  | record hkept hadded _ hperm =>
    rename_i kept added ns _
    have hnone : added = [] := List.eq_nil_iff_forall_not_mem.2 fun m hm => hclosed _ (hadded m hm)
    rw [hnone, List.append_nil] at hperm
    exact ⟨ns, rfl, ((h.listed hkept).writes hnodup).of_perm hperm⟩

end Cell

end FrameTree.Json

/-! ## Members of all kinds -/

namespace FrameTree.Document

open Json (Cell Format)
open Json.Cell (Printed)

variable {κ α ρ : Type} {S : Format κ} {k : κ} {blank : ρ} {cells : List (Cell ρ)}
  {ms : List (String × Json)} {name : String}

/-- A member with a default, for a value that is printed without loss. -/
theorem printed_value (toJson : α → Json) {a b : α} {set : α → ρ → ρ}
    (hplain : (S.lists k).lookup name = none)
    (hdefault : (S.defaults k).lookup name = some (toJson b)) (hinj : toJson a = toJson b → a = b)
    (hput : set b blank = blank) (h : Printed S k blank cells ms) :
    Printed S k blank (⟨name, false, (· = toJson a), set a⟩ :: cells) ((name, toJson a) :: ms) := by
  refine .plain hplain rfl hdefault ?_ h
  intro hab
  rw [hinj hab]
  exact ⟨rfl, hput⟩

theorem printed_text {s : String} {set : String → ρ → ρ}
    (hplain : (S.lists k).lookup name = none)
    (hdefault : (S.defaults k).lookup name = some (.string ""))
    (hput : set "" blank = blank) (h : Printed S k blank cells ms) :
    Printed S k blank (textCell name s set :: cells) ((name, .string s) :: ms) :=
  printed_value .string hplain hdefault Json.string.inj hput h

theorem printed_nonEmpty {s : String} {set : String → ρ → ρ}
    (hplain : (S.lists k).lookup name = none)
    (hdefault : (S.defaults k).lookup name = some (.string ""))
    (hput : set "" blank = blank) (h : Printed S k blank cells ms) :
    Printed S k blank (textCell name s set :: cells) (nonEmpty name s ++ ms) := by
  unfold nonEmpty
  by_cases hs : s = ""
  · subst hs
    exact .missing rfl hput h
  · rw [if_neg (by simpa using hs)]
    exact printed_text hplain hdefault hput h

theorem printed_nonEmpty_last {s : String} {set : String → ρ → ρ}
    (hplain : (S.lists k).lookup name = none)
    (hdefault : (S.defaults k).lookup name = some (.string ""))
    (hput : set "" blank = blank) :
    Printed S k blank [textCell name s set] (nonEmpty name s) := by
  have hprinted : Printed S k blank [textCell name s set] (nonEmpty name s ++ []) :=
    printed_nonEmpty hplain hdefault hput .nil
  rwa [List.append_nil] at hprinted

theorem printed_required {s : String} {set : String → ρ → ρ}
    (hplain : (S.lists k).lookup name = none)
    (hdefault : (S.defaults k).lookup name = none) (h : Printed S k blank cells ms) :
    Printed S k blank (requiredCell name s set :: cells) ((name, .string s) :: ms) :=
  .fixed hplain rfl hdefault h

theorem printed_present {text? value : Option String} {set : Option String → ρ → ρ}
    (hplain : (S.lists k).lookup name = none)
    (hdefault : (S.defaults k).lookup name = none)
    (hput : text? = none → set value blank = blank) (h : Printed S k blank cells ms) :
    Printed S k blank (presentCell name text? value set :: cells)
      (present name text? ++ ms) := by
  cases text? with
  | none => exact .missing rfl (hput rfl) h
  | some s => exact .fixed hplain ⟨s, rfl, rfl⟩ hdefault h

theorem printed_code [Json.Coded α] {a b : α} {set : α → ρ → ρ}
    (hplain : (S.lists k).lookup name = none)
    (hdefault : (S.defaults k).lookup name = some (.string (Json.Coded.code b)))
    (hcode : Json.Coded.code a = Json.Coded.code b → a = b) (hput : set b blank = blank)
    (h : Printed S k blank cells ms) :
    Printed S k blank (codeCell name a set :: cells)
      ((name, .string (Json.Coded.code a)) :: ms) :=
  printed_value (fun a => .string (Json.Coded.code a)) hplain hdefault
    (fun h => hcode (Json.string.inj h)) hput h

theorem printed_version {i : Int32} {set : Int32 → ρ → ρ}
    (hplain : (S.lists k).lookup "integrationVersion" = none)
    (hdefault : (S.defaults k).lookup "integrationVersion" = some (.ofInt32 0))
    (hput : set 0 blank = blank) (h : Printed S k blank cells ms) :
    Printed S k blank (versionCell i set :: cells)
      (("integrationVersion", .ofInt32 i) :: ms) := by
  refine printed_value .ofInt32 hplain hdefault (fun hi => ?_) hput h
  unfold Json.ofInt32 at hi
  exact Int32.toInt_inj.1 (Json.Number.int.inj (Json.number.inj hi))

theorem printed_flag {b : Bool} {set : Bool → ρ → ρ}
    (hplain : (S.lists k).lookup name = none)
    (hdefault : (S.defaults k).lookup name = some (.bool false))
    (hput : set false blank = blank) (h : Printed S k blank cells ms) :
    Printed S k blank (flagCell name b set :: cells) ((name, .bool b) :: ms) :=
  printed_value .bool hplain hdefault Json.bool.inj hput h

theorem printed_list {kind : κ} {js : List Json} {Renders : List Json → Prop} {xs : List α}
    {set : List α → ρ → ρ} (hlist : (S.lists k).lookup name = some kind)
    (hdefault : (S.defaults k).lookup name = some (.array []))
    (hitems : S.AllWorded kind js Renders) (hempty : Renders [] → xs = [])
    (hput : set [] blank = blank) (h : Printed S k blank cells ms) :
    Printed S k blank (listCell name Renders xs set :: cells) ((name, .array js) :: ms) := by
  refine .list hlist hitems (fun ws hws => ⟨ws, rfl, hws⟩) hdefault ?_ h
  intro hnil
  obtain rfl := hempty hnil
  exact ⟨rfl, hput⟩

theorem printed_records {kind : κ} {toJson : α → Json} {Renders : α → Json → Prop} {xs : List α}
    {set : List α → ρ → ρ} (hlist : (S.lists k).lookup name = some kind)
    (hdefault : (S.defaults k).lookup name = some (.array []))
    (hitem : ∀ x ∈ xs, S.Worded kind (toJson x) (Renders x)) (hput : set [] blank = blank)
    (h : Printed S k blank cells ms) :
    Printed S k blank (recordsCell name Renders xs set :: cells)
      ((name, .array (xs.map toJson)) :: ms) := by
  refine printed_list hlist hdefault (.map hitem) ?_ hput h
  intro hnil
  cases hnil
  rfl

end FrameTree.Document
