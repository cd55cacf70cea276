import FrameTree.Proofs.Flattening
import FrameTree.Proofs.Keywords
import FrameTree.Proofs.Tidy
import FrameTree.Proofs.Values

/-!
# What the verdict is about

A validator judges the document that was read from a text, not the text. The value it gets has every
member that printing writes, with its default where the author left it out, and no other member.

**Printed documents** (`Document.parse_print_submitted`). A printed text has just that value, so for
it the verdict is one on the text.

**Other texts** (`Flattener.Agrees`). If the verdict is one on the text for all schemas, then the
value of the text is the same as that of the document: the schema that allows nothing but the
document would tell them apart.

**Members.** So it does not matter what the author wrote: a required member is missed if printing
does not write it, and a member that is not allowed is objected to if printing writes it.

All this holds of every checker that knows the keywords in question (`Schema.Checker.Standard`).

Main result: `Flattener.verdict_on_submitted`.
-/

namespace FrameTree

variable {ι : Type}

/-! ## Values that are read back as they are -/

namespace Json

/-- Every number of the value is read back as it is. -/
def Steady (j : Json) : Prop := ∀ n ∈ j.numbers, n.Readable ∧ n.reread = n

@[simp] theorem steady_string (s : String) : (string s).Steady := fun _ h => nomatch h

@[simp] theorem steady_bool (b : Bool) : (bool b).Steady := fun _ h => nomatch h

@[simp] theorem steady_int32 (i : Int32) : (ofInt32 i).Steady := by
  intro n hn
  have hlow : -(powerOfTwo 63 : Int) ≤ i.toInt := Int.le_trans (by decide) (Int32.le_toInt i)
  have hhigh : i.toInt < powerOfTwo 64 := Int.lt_trans (Int32.toInt_lt i) (by decide)
  rw [List.mem_singleton.1 hn]
  exact ⟨Number.readable_int hlow hhigh, Number.reread_int hlow hhigh⟩

@[simp] theorem steady_array_iff {xs : List Json} : (array xs).Steady ↔ ∀ x ∈ xs, x.Steady :=
  forall_mem_itemNumbers

@[simp] theorem steady_object_iff {ms : List (String × Json)} :
    (object ms).Steady ↔ ∀ m ∈ ms, m.2.Steady :=
  forall_mem_memberNumbers

mutual

/-- Parsing a steady value only puts the members of its objects in order. -/
theorem Steady.reread_eq : ∀ j : Json, j.Steady → j.reread = j.canonical
  | .null, _ | .bool _, _ | .string _, _ => rfl
  | .number n, h => congrArg number (h n List.mem_cons_self).2
  | .array xs, h => congrArg array (rereadItems_eq_canonical xs (steady_array_iff.1 h))
  | .object ms, h => congrArg object' (rereadMembers_eq_canonical ms (steady_object_iff.1 h))

theorem rereadItems_eq_canonical : ∀ xs : List Json, (∀ x ∈ xs, x.Steady) →
    rereadItems xs = canonicalItems xs
  | [], _ => rfl
  | x :: xs, h => by
    rw [List.forall_mem_cons] at h
    rw [rereadItems, canonicalItems, Steady.reread_eq x h.1, rereadItems_eq_canonical xs h.2]

theorem rereadMembers_eq_canonical : ∀ ms : List (String × Json), (∀ m ∈ ms, m.2.Steady) →
    rereadMembers ms = canonicalMembers ms
  | [], _ => rfl
  | (_, v) :: ms, h => by
    rw [List.forall_mem_cons] at h
    rw [rereadMembers, canonicalMembers, Steady.reread_eq v h.1, rereadMembers_eq_canonical ms h.2]

end

mutual

theorem same_self : ∀ j : Json, j.same j = true
  | .null => rfl
  | .bool b => by simp [same]
  | .number n => by simp [same, Number.compare]
  | .string s => by simp [same]
  | .array xs => sameItems_self xs
  | .object ms => sameMembers_self ms

theorem sameItems_self : ∀ xs : List Json, sameItems xs xs = true
  | [] => rfl
  | x :: xs => by rw [sameItems, same_self x, sameItems_self xs, Bool.and_self]

theorem sameMembers_self : ∀ ms : List (String × Json), sameMembers ms ms = true
  | [] => rfl
  | (n, v) :: ms => by simp [sameMembers, same_self v, sameMembers_self ms]

end

end Json

/-! ## Printed documents -/

namespace Document

open Json (Steady)

theorem steady_nonEmpty (name text : String) : ∀ m ∈ nonEmpty name text, m.2.Steady := by
  unfold nonEmpty
  split <;> simp

theorem steady_present (name : String) (text : Option String) :
    ∀ m ∈ present name text, m.2.Steady := by
  cases text <;> simp [present]

theorem Variable.steady (v : Variable) : v.toJson.Steady := by simp [toJson]

theorem Property.steady (p : Property) : p.toJson.Steady := by
  rw [toJson, Json.steady_object_iff]
  simp only [List.forall_mem_append]
  exact ⟨⟨⟨⟨⟨⟨by simp, steady_present _ _⟩, by simp⟩, steady_nonEmpty _ _⟩, steady_nonEmpty _ _⟩,
    steady_nonEmpty _ _⟩, steady_nonEmpty _ _⟩

theorem Binding.steady (b : Binding) : b.toJson.Steady := by
  rw [toJson, Json.steady_object_iff, List.forall_mem_append]
  exact ⟨by simp, steady_nonEmpty _ _⟩

theorem Slot.steady (s : Slot) : s.toJson.Steady := by
  rw [toJson, Json.steady_object_iff, List.forall_mem_append]
  exact ⟨by simp, steady_nonEmpty _ _⟩

theorem TriggerProperty.steady (p : TriggerProperty) : p.toJson.Steady := by
  rw [toJson, Json.steady_object_iff]
  simp only [List.forall_mem_append]
  exact ⟨⟨⟨⟨by simp, steady_nonEmpty _ _⟩, steady_nonEmpty _ _⟩, steady_nonEmpty _ _⟩,
    steady_nonEmpty _ _⟩

theorem triggers_steady (ts : Forest Trigger) : ∀ j ∈ triggersToJson ts, j.Steady := by
  induction ts using Forest.induction with
  | nil => simp [triggersToJson]
  | cons t ts rest ih ih' =>
    rw [triggersToJson, List.forall_mem_cons, triggerToJson]
    refine ⟨?_, ih'⟩
    simpa [Trigger.toJson, TriggerProperty.steady, Binding.steady] using ih

theorem Action.steady (a : Action) : a.toJson.Steady := by
  simpa [toJson] using triggers_steady a.triggers

theorem blocks_steady (ts : Forest Block) : ∀ j ∈ blocksToJson ts, j.Steady := by
  induction ts using Forest.induction with
  | nil => simp [blocksToJson]
  | cons b ts rest ih ih' =>
    rw [blocksToJson, List.forall_mem_cons, blockToJson]
    refine ⟨?_, ih'⟩
    rw [Block.toJson, Json.steady_object_iff]
    simp only [List.forall_mem_append]
    refine ⟨⟨by simp, steady_present _ _⟩, ?_⟩
    simpa [Property.steady, Binding.steady, Slot.steady, Action.steady] using ih

theorem steady (d : Document) : d.toJson.Steady := by
  simpa [toJson, Variable.steady] using blocks_steady d.blocks

/-- A printed document is the document that was read, and its text has the value that a validator
gets. -/
theorem parse_print_submitted {d : Document} (hd : d.Tidy)
    (hnesting : d.toJson.nesting ≤ Json.nestingRoom) :
    parse d.print = .ok d ∧ Json.parse d.print = .ok (Flattener.submitted d) := by
  have hwithin : d.toJson.Within Json.nestingRoom := ⟨fun n hn => (d.steady n hn).1, hnesting⟩
  constructor
  · rw [parse_print, tidy_eq hd, Json.fitted, if_pos hnesting]
  · rw [print, hwithin.parse_eq (List.mem_cons_of_mem _ List.mem_cons_self), d.steady.reread_eq]
    rfl

end Document

/-! ## Verdicts -/

namespace Flattener

/-- Flattening the text ends with the violations of its schema. -/
def Rejects (f : Flattener ι) (text : String) (ledger : Ledger) (violations : List String) : Prop :=
  Fault.answer (f.flattenText text ledger) = some (.rejected violations)

variable {f : Flattener ι} {text : String} {d : Document}

/-- A document that is to be judged is rejected just if the validator says so of its value. -/
theorem rejects_iff (hparse : Document.parse text = .ok d) (hschema : d.schema ≠ "")
    (hwithin : Nesting.Within f.settings.maxDepth d.blocks) (ledger : Ledger)
    (violations : List String) :
    f.Rejects text ledger violations ↔
      f.validator (submitted d) d.schema = .ok (.invalid violations) := by
  rw [Rejects, flattenText, hparse]
  dsimp only
  rw [flatten_of_within ledger hschema hwithin]
  cases hv : f.validator (submitted d) d.schema with
  | error e => simp [Fault.answer]
  | ok verdict =>
    cases verdict with
    | invalid violations' => simp [Fault.answer]
    | valid =>
      dsimp only
      cases d.number f.issuer f.settings ledger.issued <;> simp [Fault.answer]

/-- A document is rejected by its schema just if its value is not as the schema wants it. -/
theorem exists_rejects_iff {settings : Settings} {check : Schema.Checker} {files : FileView}
    {I : Issuer ι} (hparse : Document.parse text = .ok d) (hschema : d.schema ≠ "")
    (hwithin : Nesting.Within settings.maxDepth d.blocks) {schema : Json} {P : Prop}
    (hdecides : check.Decides schema (submitted d) P) (ledger : Ledger) :
    (∃ violations, Rejects ⟨settings, SchemaStore.validatorWith check [(d.schema, schema)] files, I⟩
      text ledger violations) ↔ ¬P := by
  have hlookup : List.lookup d.schema [(d.schema, schema)] = some schema := by simp
  rw [← SchemaStore.exists_invalid_iff hlookup hdecides files]
  exact exists_congr fun violations => rejects_iff hparse hschema hwithin ledger violations

/-- For every schema that is loaded for a reference, flattening the text is rejected just if the
value violates the schema. -/
def Agrees (check : Schema.Checker) (settings : Settings) (files : FileView) (I : Issuer ι)
    (text reference : String) (j : Json) : Prop :=
  ∀ (schema : Json) (ledger : Ledger),
    let validator := SchemaStore.validatorWith check [(reference, schema)] files
    (∃ violations, Rejects ⟨settings, validator, I⟩ text ledger violations) ↔
      ∃ violations, validator j reference = .ok (.invalid violations)

/-- **The verdict is on the document that was read.** A text that is read as a document is rejected
just if the validator lists violations of the value that printing the document writes, with every
default and without any unknown member. So the verdict is one on the text if the text has this
value, as printed documents have; and if it is one on the text for every schema, then the value of
the text is the same. A member that is required is missed just if printing does not write it, and
one that is not allowed is objected to just if printing writes it. -/
theorem verdict_on_submitted {check : Schema.Checker} (hcheck : check.Standard)
    (settings : Settings) (files : FileView) (I : Issuer ι)
    (hparse : Document.parse text = .ok d) (hschema : d.schema ≠ "")
    (hwithin : Nesting.Within settings.maxDepth d.blocks) :
    (∀ (schemas : SchemaStore) (ledger : Ledger) (violations : List String),
      Rejects ⟨settings, schemas.validatorWith check files, I⟩ text ledger violations ↔
        schemas.validatorWith check files (submitted d) d.schema = .ok (.invalid violations)) ∧
    (∀ j, Json.parse text = .ok j →
      (j = submitted d → Agrees check settings files I text d.schema j) ∧
      (Agrees check settings files I text d.schema j → j.same (submitted d))) ∧
    (∀ (names : List String) (ledger : Ledger), names.Nodup →
      ((∃ violations, Rejects ⟨settings,
          SchemaStore.validatorWith check [(d.schema, Schema.requiring names)] files, I⟩ text ledger
            violations) ↔
        ∃ name ∈ names, (submitted d).get? name = none)) ∧
    (∀ (names : List String) (ledger : Ledger), names.Nodup →
      ((∃ violations, Rejects ⟨settings,
          SchemaStore.validatorWith check [(d.schema, Schema.allowing names)] files, I⟩ text ledger
            violations) ↔
        ∃ name, name ∉ names ∧ (submitted d).get? name ≠ none)) ∧
    (d.toJson.nesting ≤ Json.nestingRoom →
      Document.parse d.print = .ok d ∧ Json.parse d.print = .ok (submitted d)) := by
  obtain ⟨ms, hms⟩ : ∃ ms, submitted d = .object ms := ⟨_, rfl⟩
  refine ⟨fun schemas ledger violations => rejects_iff hparse hschema hwithin ledger violations,
    fun j _ => ⟨?_, ?_⟩, fun names ledger hnames => ?_, fun names ledger hnames => ?_,
    Document.parse_print_submitted (Document.tidy_of_parse hparse)⟩
  · rintro rfl schema ledger
    exact exists_congr fun violations => rejects_iff hparse hschema hwithin ledger violations
  · intro hagrees
    -- The schema that allows nothing but the document decides about both.
    have hverdict := hagrees (Schema.only (submitted d)) .empty
    dsimp only at hverdict
    have hconst (j : Json) :
        check.Decides (Schema.only (submitted d)) j (j.same (submitted d)) := by
      rw [hms]
      exact hcheck.const ms j
    have hlookup : List.lookup d.schema [(d.schema, Schema.only (submitted d))] =
        some (Schema.only (submitted d)) := by simp
    rw [exists_rejects_iff hparse hschema hwithin (hconst _),
      SchemaStore.exists_invalid_iff hlookup (hconst j), not_iff_not, Json.same_self] at hverdict
    exact hverdict.1 rfl
  · have hdecides := hcheck.required names hnames ms
    rw [← hms] at hdecides
    rw [exists_rejects_iff hparse hschema hwithin hdecides, hms]
    simp only [Json.get?, Option.isSome_iff_ne_none, ne_eq, not_forall, Decidable.not_not,
      exists_prop]
  · have hdecides := hcheck.additionalProperties names hnames ms
    rw [← hms] at hdecides
    rw [exists_rejects_iff hparse hschema hwithin hdecides, hms]
    simp only [Json.get?, Option.isSome_iff_ne_none, ne_eq, not_forall, exists_prop, and_comm]

/-- A text that gives nothing but the reference of its schema. -/
def bareText : String := "\x7b\"$schema\":\"frame.json\"\x7d"

/-- The document that is read from it. -/
def bare : Document := { (default : Document) with schema := "frame.json" }

/-- The value of the text. -/
def bareValue : Json := .object [("$schema", .string "frame.json")]

/-- A schema that requires a name. -/
def named : SchemaStore := [("frame.json", Schema.requiring ["name"])]

theorem parse_bare : Document.parse bareText = .ok bare := by decide +kernel

theorem parse_bareValue : Json.parse bareText = .ok bareValue := by
  have hwithin : bareValue.Within (126 + 1) := by simp [bareValue]
  have htext : bareText = bareValue.compact := by decide +kernel
  rw [htext, hwithin.parse_eq List.mem_cons_self]
  rfl

theorem verdict_on_submitted_bare :
    Schema.Checker.Standard Schema.check ∧ Document.parse bareText = .ok bare ∧
      bare.schema ≠ "" ∧ Nesting.Within Settings.standard.maxDepth bare.blocks ∧
      Json.parse bareText = .ok bareValue ∧
      (∀ ledger violations,
        Rejects ⟨.standard, named.validator FileStore.empty.view, .sequential "id"⟩ bareText ledger
            violations ↔
          named.validator FileStore.empty.view (submitted bare) "frame.json" =
            .ok (.invalid violations)) ∧
      (Agrees Schema.check .standard FileStore.empty.view (.sequential "id") bareText "frame.json"
        bareValue → bareValue.same (submitted bare)) ∧
      (∀ ledger, (∃ violations, Rejects ⟨.standard, named.validator FileStore.empty.view,
          .sequential "id"⟩ bareText ledger violations) ↔
        ∃ name ∈ ["name"], (submitted bare).get? name = none) ∧
      Document.parse bare.print = .ok bare ∧ Json.parse bare.print = .ok (submitted bare) := by
  have hcheck := Schema.standard_check
  have hschema : bare.schema ≠ "" := by decide
  have hwithin : Nesting.Within Settings.standard.maxDepth bare.blocks := by decide
  have hnesting : bare.toJson.nesting ≤ Json.nestingRoom := by decide
  have hnames : ["name"].Nodup := by decide
  obtain ⟨hrejects, hagrees, hrequired, -, hprint⟩ := verdict_on_submitted hcheck .standard
    FileStore.empty.view (.sequential "id") parse_bare hschema hwithin
  exact ⟨hcheck, parse_bare, hschema, hwithin, parse_bareValue, hrejects named,
    (hagrees bareValue parse_bareValue).2, fun ledger => hrequired ["name"] ledger hnames,
    hprint hnesting⟩

/-- The text lacks a name that its schema requires. It is not rejected, whatever else the checker
knows, since the document that is read from it has an empty one. -/
theorem missing_name_not_reported :
    Document.parse bareText = .ok bare ∧ bare.schema ≠ "" ∧
      Nesting.Within Settings.standard.maxDepth bare.blocks ∧
      Json.parse bareText = .ok bareValue ∧ Schema.Checker.Standard Schema.check ∧
      ∀ check : Schema.Checker, check.Standard →
        (∃ violations, named.validatorWith check FileStore.empty.view bareValue bare.schema =
          .ok (.invalid violations)) ∧
        ∀ violations, ¬Rejects ⟨.standard, named.validatorWith check FileStore.empty.view,
          .sequential "id"⟩ bareText .empty violations := by
  have hschema : bare.schema ≠ "" := by decide
  have hwithin : Nesting.Within Settings.standard.maxDepth bare.blocks := by decide
  have hnames : ["name"].Nodup := by decide
  have hlookup : named.lookup bare.schema = some (Schema.requiring ["name"]) := rfl
  refine ⟨parse_bare, hschema, hwithin, parse_bareValue, Schema.standard_check,
    fun check hcheck => ⟨?_, ?_⟩⟩
  · have hdecides : check.Decides (Schema.requiring ["name"]) bareValue _ :=
      hcheck.required _ hnames _
    rw [SchemaStore.exists_invalid_iff hlookup hdecides]
    decide
  · obtain ⟨ms, hms⟩ : ∃ ms, submitted bare = .object ms := ⟨_, rfl⟩
    have hdecides := hcheck.required _ hnames ms
    rw [← hms] at hdecides
    have hname : ∀ name ∈ ["name"], (ms.lookup name).isSome := by
      have hget : ((submitted bare).get? "name").isSome := by decide
      rw [hms] at hget
      simpa [Json.get?] using hget
    intro violations hrejects
    exact (exists_rejects_iff parse_bare hschema hwithin hdecides .empty).1 ⟨violations, hrejects⟩
      hname

end Flattener

end FrameTree
