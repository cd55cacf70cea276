import FrameTree.Schema.Check
import Mathlib.Tactic.SplitIfs

/-!
# Keywords of JSON Schema

How values are checked against schemas is up to a checker. Three keywords are enough to say what the
verdict on a document is about: `const` allows one value only, `required` asks for members, and
`additionalProperties` forbids all members but those that are named.

**Relied on** (`Schema.Checker.Standard`). A checker that knows these keywords accepts each of the
three schemas, and lists no violation just if the value is as the keyword wants it. A schema that
was loaded for a reference then rejects just the other values (`SchemaStore.exists_invalid_iff`).

**The checker of the program** knows them (`Schema.standard_check`).

Main results: `SchemaStore.exists_invalid_iff`, `Schema.standard_check`.
-/

namespace FrameTree

namespace Schema

/-! ## Schemas of one keyword -/

/-- The schema that allows one value only. -/
def only (constant : Json) : Json := .object [("const", constant)]

/-- The schema that asks for some members. -/
def requiring (names : List String) : Json := .object [("required", .array (names.map .string))]

/-- The schema that allows no other members than some. -/
def allowing (names : List String) : Json :=
  .object [("additionalProperties", .bool false),
    ("properties", .object (names.map fun name => (name, .bool true)))]

namespace Checker

/-- The checker takes the schema for one, and the value has no violation of it just if `P`. -/
def Decides (check : Checker) (schema value : Json) (P : Prop) : Prop :=
  ∃ violations, check schema value = .ok violations ∧ (violations = [] ↔ P)

/-- What is relied on of a checker. -/
structure Standard (check : Checker) : Prop where
  /-- A constant object allows what is the same. -/
  const : ∀ ms j, check.Decides (only (.object ms)) j (j.same (.object ms))
  /-- A required member has to be there. -/
  required : ∀ names, names.Nodup → ∀ ms,
    check.Decides (requiring names) (.object ms) (∀ name ∈ names, (ms.lookup name).isSome)
  /-- A member that is not named must not be there. -/
  additionalProperties : ∀ names, names.Nodup → ∀ ms,
    check.Decides (allowing names) (.object ms) (∀ name, (ms.lookup name).isSome → name ∈ names)

end Checker

end Schema

/-! ## Validators -/

namespace SchemaStore

variable {check : Schema.Checker} {schemas : SchemaStore} {reference : String}
  {schema document : Json}

/-- What a validator says about a document whose schema was loaded beforehand. -/
theorem validatorWith_of_lookup (h : schemas.lookup reference = some schema) (files : FileView)
    (document : Json) :
    schemas.validatorWith check files document reference =
      match check schema document with
      | .error message => .error (.invalidSchema reference message)
      | .ok [] => .ok .valid
      | .ok violations => .ok (.invalid (violations.map (·.text))) := by
  rw [validatorWith, find, h]
  rfl

/-- A document is rejected just if it is not as its schema wants it. -/
theorem exists_invalid_iff (h : schemas.lookup reference = some schema) {P : Prop}
    (hdecides : check.Decides schema document P) (files : FileView) :
    (∃ violations, schemas.validatorWith check files document reference =
      .ok (.invalid violations)) ↔ ¬P := by
  obtain ⟨violations, hcheck, hP⟩ := hdecides
  rw [validatorWith_of_lookup h, hcheck, ← hP]
  cases violations <;> simp

end SchemaStore

/-! ## The checker of the program -/

namespace Schema

/-- A schema without references and patterns is applied at once. -/
theorem exists_check_eq {schema : Json} (hdefect : defect? schema = none)
    (hdemands : demands schema = []) (j : Json) :
    ∃ steps, check schema j = .ok (violations schema (steps + 1) schema j []) := by
  have hunmet (steps : Nat) : unmet? schema steps [] [] = none := by
    cases steps <;> rfl
  obtain ⟨steps, hsteps⟩ : ∃ steps, (weight schema + 1) * (weight j + 1) = steps + 1 :=
    Nat.exists_eq_succ_of_ne_zero (by simp)
  exact ⟨steps, by rw [check, hdefect, hdemands]; simp only [hunmet, hsteps]⟩

/-- The violations decide about a schema without references and patterns. -/
theorem decides_of_violations {schema j : Json} {P : Prop} (hdefect : defect? schema = none)
    (hdemands : demands schema = [])
    (h : ∀ steps, violations schema (steps + 1) schema j [] = [] ↔ P) :
    Checker.Decides check schema j P := by
  obtain ⟨steps, hcheck⟩ := exists_check_eq hdefect hdemands j
  exact ⟨_, hcheck, h steps⟩

theorem violations_true (root j : Json) (steps : Nat) (path : List String) :
    violations root steps (.bool true) j path = [] := by
  cases steps <;> rfl

theorem check_true (j : Json) : check (.bool true) j = .ok [] := by
  have hdefect : defect? (.bool true) = none := rfl
  obtain ⟨steps, h⟩ := exists_check_eq hdefect rfl j
  rw [h, violations_true]

/-! ### Constants -/

theorem plainMessage?_const (constant j : Json) :
    plainMessage? "const" constant j =
      if isConstant constant j then none else some s!"{shown constant} was expected" := by
  cases j <;> rfl

theorem violations_only (root constant j : Json) (steps : Nat) :
    violations root (steps + 1) (only constant) j [] =
      if isConstant constant j then [] else [⟨[], s!"{shown constant} was expected"⟩] := by
  rw [only, violations, List.flatMap_singleton]
  dsimp only
  split
  -- All cases but the last are about keywords of other names.
  case h_11 =>
    rw [plainMessage?_const]
    split_ifs <;> rfl
  all_goals
    rename_i hkeyword
    exact absurd hkeyword (by decide)

theorem isConstant_object (ms : List (String × Json)) (j : Json) :
    isConstant (.object ms) j = j.same (.object ms) := by
  cases j <;> rfl

theorem decides_const (ms : List (String × Json)) (j : Json) :
    Checker.Decides check (only (.object ms)) j (j.same (.object ms)) := by
  have hdefect : defect? (only (.object ms)) = none := by
    simp [only, defect?, keywordDefects, schemaKeywords, listKeywords, mapKeywords, plainDefect?,
      leastRank, sizeKeywords, boundKeywords]
  have hdemands : demands (only (.object ms)) = [] := by
    simp [only, demands, memberDemands, schemaKeywords, listKeywords, plainDemand?]
  refine decides_of_violations hdefect hdemands fun steps => ?_
  rw [violations_only, isConstant_object]
  split <;> simp [*]

/-! ### Required members -/

theorem allDistinct_strings {names : List String} (h : names.Nodup) :
    allDistinct (names.map .string) = true := by
  induction names with
  | nil => rfl
  | cons name names ih =>
    obtain ⟨hname, hnames⟩ := List.nodup_cons.1 h
    rw [List.map_cons, allDistinct, ih hnames, Bool.and_true, Bool.not_eq_true', List.any_map,
      List.any_eq_false]
    intro other hother hsame
    have heq : name = other := by simpa [Json.same] using hsame
    exact hname (heq ▸ hother)

theorem lacking_strings (names : List String) (ms : List (String × Json)) :
    lacking (.array (names.map .string)) ms =
      (names.filter fun name => (ms.lookup name).isNone).map .string := by
  rw [lacking, List.filter_map]
  rfl

theorem violations_requiring (root : Json) (names : List String) (ms : List (String × Json))
    (steps : Nat) :
    violations root (steps + 1) (requiring names) (.object ms) [] =
      (names.filter fun name => (ms.lookup name).isNone).map fun name =>
        ⟨[], s!"{shown (.string name)} is a required property"⟩ := by
  simp only [requiring, violations, List.flatMap_singleton]
  rw [lacking_strings, List.map_map]
  rfl

theorem decides_required {names : List String} (hnames : names.Nodup) (ms : List (String × Json)) :
    Checker.Decides check (requiring names) (.object ms)
      (∀ name ∈ names, (ms.lookup name).isSome) := by
  have hstrings : stringListDefect? (.array (names.map .string)) = none := by
    simp only [stringListDefect?]
    split
    · rename_i j hj
      obtain ⟨name, -, rfl⟩ := List.mem_map.1 (List.mem_of_find?_eq_some hj)
      exact absurd (List.find?_some hj) (by simp)
    · exact if_pos (allDistinct_strings hnames)
  have hdefect : defect? (requiring names) = none := by
    simp [requiring, defect?, keywordDefects, schemaKeywords, listKeywords, mapKeywords,
      plainDefect?, leastRank, hstrings]
  have hdemands : demands (requiring names) = [] := by
    simp [requiring, demands, memberDemands, schemaKeywords, listKeywords, plainDemand?]
  refine decides_of_violations hdefect hdemands fun steps => ?_
  rw [violations_requiring, List.map_eq_nil_iff, List.filter_eq_nil_iff]
  simp only [Option.isNone_iff_eq_none, ← ne_eq, ← Option.isSome_iff_ne_none]

/-! ### Additional members -/

theorem lookup_map_true (names : List String) (name : String) :
    (names.map fun n => (n, Json.bool true)).lookup name =
      if name ∈ names then some (.bool true) else none := by
  induction names with
  | nil => rfl
  | cons n names ih =>
    rw [List.map_cons, List.lookup_cons, ih]
    by_cases h : name = n
    · simp [h]
    · simp [h, beq_false_of_ne h]

theorem isSome_lookup_iff (ms : List (String × Json)) (name : String) :
    (ms.lookup name).isSome ↔ name ∈ ms.map Prod.fst := by
  rw [List.lookup_isSome_iff, List.mem_map]
  exact exists_congr fun m => and_congr_right fun _ => by rw [beq_iff_eq, eq_comm]

theorem violations_allowing (root : Json) (names : List String) (ms : List (String × Json))
    (steps : Nat) :
    violations root (steps + 1) (allowing names) (.object ms) [] =
      let extra := ms.filter fun m => m.1 ∉ names
      if extra.isEmpty then [] else [⟨[], unexpected (extra.map Prod.fst)⟩] := by
  let properties : Json := .object (names.map fun name => (name, .bool true))
  have hproperties : List.lookup "properties" [("additionalProperties", .bool false),
      ("properties", properties)] = some properties := rfl
  have hrestricted : List.lookup "additionalProperties" [("additionalProperties", .bool false),
      ("properties", properties)] = some (.bool false) := rfl
  have hextra (m : String × Json) :
      ((names.map fun name => (name, Json.bool true)).lookup m.1).isNone =
        decide (m.1 ∉ names) := by
    rw [lookup_map_true]
    by_cases h : m.1 ∈ names <;> simp [h]
  simp only [allowing, violations, List.flatMap_cons, List.flatMap_nil, List.append_nil,
    properties, hproperties, hrestricted, hextra]
  rw [List.flatMap_eq_nil_iff.2, List.nil_append]
  intro m _
  rw [lookup_map_true]
  by_cases h : m.1 ∈ names <;> simp [h, violations_true]

theorem firstMemberDefect?_true (names : List String) :
    firstMemberDefect? (names.map fun n => (n, .bool true)) = none := by
  induction names with
  | nil => rfl
  | cons n names ih => exact ih

theorem innerDemands_true (names : List String) :
    innerDemands (names.map fun n => (n, .bool true)) = [] := by
  induction names with
  | nil => rfl
  | cons n names ih => exact ih

theorem decides_additionalProperties (names : List String) (ms : List (String × Json)) :
    Checker.Decides check (allowing names) (.object ms)
      (∀ name, (ms.lookup name).isSome → name ∈ names) := by
  have hdefect : defect? (allowing names) = none := by
    simp [allowing, defect?, keywordDefects, schemaKeywords, listKeywords, mapKeywords, mapDefect?,
      leastRank, firstMemberDefect?_true]
  have hdemands : demands (allowing names) = [] := by
    simp [allowing, demands, memberDemands, schemaKeywords, listKeywords, innerDemands_true]
  refine decides_of_violations hdefect hdemands fun steps => ?_
  simp only [violations_allowing, isSome_lookup_iff]
  have hextra : (ms.filter fun m => m.1 ∉ names).isEmpty ↔
      ∀ name ∈ ms.map Prod.fst, name ∈ names := by
    rw [List.isEmpty_iff, List.filter_eq_nil_iff, List.forall_mem_map]
    simp only [decide_eq_true_iff, Decidable.not_not]
  by_cases hall : ∀ name ∈ ms.map Prod.fst, name ∈ names
  · rw [if_pos (hextra.2 hall)]
    exact iff_of_true rfl hall
  · rw [if_neg (mt hextra.1 hall)]
    exact iff_of_false (List.cons_ne_nil _ _) hall

/-- **The checker of the program** knows the keywords that are relied on. -/
theorem standard_check : Checker.Standard check where
  const := decides_const
  required _ hnames := decides_required hnames
  additionalProperties names _ := decides_additionalProperties names

end Schema

end FrameTree
