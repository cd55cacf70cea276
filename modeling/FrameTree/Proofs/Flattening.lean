import FrameTree.Proofs.Nesting
import FrameTree.Proofs.Walk

/-!
# Flattening ends with the first fault

Everything that can keep a document from becoming a frame is listed by `Flattener.faults`, in the
order in which it is looked for: the schema reference, the nesting, the verdict of the validator,
and then what the walk finds. Flattening stops at the first entry of the list; if there is none, it
gives the frame of the document with the next ids.

Main results: `Flattener.flatten_of_no_faults`, `Flattener.flatten_of_faults`, and together
`Flattener.answer_flatten`.
-/

namespace FrameTree

variable {ι : Type}

/-- What keeps a document from becoming a frame: an error, or violations of its schema. -/
inductive Fault where
  | error (e : Error)
  | rejected (violations : List String)
deriving DecidableEq, Repr

/-- What flattening has ended with instead of a frame. -/
def Fault.answer : EStateM.Result Error Ledger (Outcome ι) → Option Fault
  | .ok (.flattened _) _ => none
  | .ok (.rejected violations) _ => some (.rejected violations)
  | .error e _ => some (.error e)

namespace Flattener

variable (f : Flattener ι) (d : Document)

def schemaFaults : List Fault :=
  if d.schema = "" then [.error .missingSchema] else []

def nestingFaults : List Fault :=
  if Nesting.Within f.settings.maxDepth d.blocks then []
  else [.error (.depthExceeded f.settings.maxDepth)]

def verdictFaults : List Fault :=
  match f.validator (submitted d) d.schema with
  | .ok .valid => []
  | .ok (.invalid violations) => [.rejected violations]
  | .error e => [.error e]

/-- What keeps a document from becoming a frame, in the order in which it is looked for. -/
def faults : List Fault :=
  schemaFaults d ++ f.nestingFaults d ++ f.verdictFaults d ++ (d.faults f.settings).map .error

theorem schemaFaults_eq_nil_iff : schemaFaults d = [] ↔ d.schema ≠ "" := by
  rw [schemaFaults]
  split <;> simp_all

theorem nestingFaults_eq_nil_iff :
    f.nestingFaults d = [] ↔ Nesting.Within f.settings.maxDepth d.blocks := by
  rw [nestingFaults]
  split <;> simp_all

theorem verdictFaults_eq_nil_iff :
    f.verdictFaults d = [] ↔ f.validator (submitted d) d.schema = .ok .valid := by
  rw [verdictFaults]
  split <;> simp_all

theorem faults_eq_nil_iff :
    f.faults d = [] ↔ d.schema ≠ "" ∧ Nesting.Within f.settings.maxDepth d.blocks ∧
      f.validator (submitted d) d.schema = .ok .valid ∧ d.faults f.settings = [] := by
  rw [faults, List.append_eq_nil_iff, List.append_eq_nil_iff, List.append_eq_nil_iff,
    schemaFaults_eq_nil_iff, nestingFaults_eq_nil_iff, verdictFaults_eq_nil_iff,
    List.map_eq_nil_iff, and_assoc, and_assoc]

variable {f d} in
/-- In a document without faults no two blocks have the same key. -/
theorem nodup_keys_of_no_faults (h : f.faults d = []) :
    ((Forest.labels d.blocks).map Document.Block.key).Nodup := by
  obtain ⟨-, -, -, hd⟩ := (faults_eq_nil_iff f d).1 h
  obtain ⟨-, -, hkeys⟩ := Document.faults_eq_nil_iff.1 hd
  exact hkeys

/-! ## One check after the other -/

variable {f d} (ledger : Ledger)

/-- What the validator is asked about a document, with its answer. -/
def consultation (f : Flattener ι) (d : Document) : Consultation :=
  ⟨submitted d, d.schema, f.validator (submitted d) d.schema⟩

/-- The ledger after the validator has been asked about a document. -/
def asked (f : Flattener ι) (d : Document) (ledger : Ledger) : Ledger :=
  { ledger with calls := f.consultation d :: ledger.calls }

@[simp] theorem issued_asked (f : Flattener ι) (d : Document) (ledger : Ledger) :
    (f.asked d ledger).issued = ledger.issued := by
  rw [asked]

theorem flatten_of_no_schema (h : d.schema = "") :
    f.flatten d ledger = .error .missingSchema ledger := by
  rw [flatten, if_pos (by rw [h]; rfl)]
  rfl

theorem flatten_of_too_deep (hs : d.schema ≠ "")
    (h : ¬Nesting.Within f.settings.maxDepth d.blocks) :
    f.flatten d ledger = .error (.depthExceeded f.settings.maxDepth) ledger := by
  rw [flatten, if_neg (by simpa using hs), Nesting.check_eq, if_neg h]
  rfl

/-- Judging is one call of the validator. -/
theorem judge_eq (f : Flattener ι) (d : Document) :
    f.judge d = fun ledger =>
      match f.validator (submitted d) d.schema with
      | .ok verdict => .ok verdict (f.asked d ledger)
      | .error e => .error e (f.asked d ledger) := by
  funext ledger
  show (match f.validator (submitted d) d.schema with
    | .ok verdict => return verdict
    | .error e => throw e : Flattening Verdict) (f.asked d ledger) = _
  cases f.validator (submitted d) d.schema <;> rfl

theorem flatten_of_within (hs : d.schema ≠ "") (h : Nesting.Within f.settings.maxDepth d.blocks) :
    f.flatten d ledger =
      match f.validator (submitted d) d.schema with
      | .error e => .error e (f.asked d ledger)
      | .ok (.invalid violations) => .ok (.rejected violations) (f.asked d ledger)
      | .ok .valid =>
        match d.number f.issuer f.settings ledger.issued with
        | .error e n => .error e { f.asked d ledger with issued := n }
        | .ok F n => .ok (.flattened F) { f.asked d ledger with issued := n } := by
  rw [flatten, if_neg (by simpa using hs), Nesting.check_eq, if_pos h]
  simp only [Numbering.check, Numbering.enter, judge_eq, bind, EStateM.bind, pure, EStateM.pure]
  cases hv : f.validator (submitted d) d.schema with
  | error e => rfl
  | ok verdict =>
    cases verdict with
    | invalid violations => rfl
    | valid =>
      simp only [EStateM.bind, Numbering.enter, issued_asked]
      cases d.number f.issuer f.settings ledger.issued <;> rfl

/-- Without a fault, flattening gives the frame with the next ids. -/
theorem flatten_of_no_faults (h : f.faults d = []) :
    f.flatten d ledger = .ok (.flattened (d.placed f.issuer f.settings ledger.issued))
      { f.asked d ledger with issued := ledger.issued + d.idCount } := by
  obtain ⟨hs, hw, hv, hd⟩ := (faults_eq_nil_iff f d).1 h
  rw [flatten_of_within ledger hs hw, hv]
  dsimp only
  rw [Document.number_of_no_faults f.issuer ledger.issued hd]

/-- With a fault, flattening ends with the first one. -/
theorem answer_of_faults {x : Fault} {xs : List Fault} (h : f.faults d = x :: xs) :
    Fault.answer (f.flatten d ledger) = some x := by
  by_cases hs : d.schema = ""
  · rw [faults, schemaFaults, if_pos hs] at h
    cases h
    rw [flatten_of_no_schema ledger hs, Fault.answer]
  by_cases hw : Nesting.Within f.settings.maxDepth d.blocks
  · rw [faults, (schemaFaults_eq_nil_iff d).2 hs, (nestingFaults_eq_nil_iff f d).2 hw,
      verdictFaults] at h
    rw [flatten_of_within ledger hs hw]
    cases hv : f.validator (submitted d) d.schema with
    | error e =>
      rw [hv] at h
      cases h
      rfl
    | ok verdict =>
      rw [hv] at h
      cases verdict with
      | invalid violations =>
        cases h
        rfl
      | valid =>
        -- Only the walk is left.
        cases hd : d.faults f.settings with
        | nil =>
          rw [hd] at h
          cases h
        | cons e errors =>
          rw [hd] at h
          cases h
          obtain ⟨m, hm⟩ := Document.number_of_faults f.issuer ledger.issued hd
          dsimp only
          rw [hm]
          rfl
  · rw [faults, (schemaFaults_eq_nil_iff d).2 hs, nestingFaults, if_neg hw] at h
    cases h
    rw [flatten_of_too_deep ledger hs hw, Fault.answer]

/-- A frame is the one of the document with the next ids, and there is no fault. -/
theorem eq_of_flattened {ledger ledger' : Ledger} {F : Frame ι}
    (h : f.flatten d ledger = .ok (.flattened F) ledger') :
    f.faults d = [] ∧ F = d.placed f.issuer f.settings ledger.issued ∧
      ledger'.issued = ledger.issued + d.idCount := by
  cases hf : f.faults d with
  | nil =>
    rw [flatten_of_no_faults ledger hf] at h
    cases h
    exact ⟨rfl, rfl, rfl⟩
  | cons x xs =>
    have := answer_of_faults ledger hf
    rw [h] at this
    cases this

/-- **Flattening ends with the first fault**, and gives a frame just if there is none. -/
theorem answer_flatten (f : Flattener ι) (d : Document) (ledger : Ledger) :
    Fault.answer (f.flatten d ledger) = (f.faults d).head? := by
  cases h : f.faults d with
  | nil =>
    rw [flatten_of_no_faults ledger h]
    rfl
  | cons x xs => exact answer_of_faults ledger h

end Flattener

/-! ## A document without faults -/

/-- A column with a text in its header and, in the default slot, a button whose action has a chain
of two triggers. -/
def Document.profile : Document :=
  let block : Document.Block :=
    { keyType := "", key := "", visibilityKey := "", slot := none, version := 1, properties := [],
      data := [], slots := [], actions := [] }
  let trigger : Document.Trigger :=
    { keyType := "NAVIGATE", mode := .next, name := "open", version := 1, properties := [],
      data := [] }
  let title : Document.Binding :=
    { key := "text", value := "title", kind := "STRING", description := "" }
  let color : Document.Property :=
    { key := "color", value := some "red", mobile := "", tablet := "", desktop := "",
      kind := "COLOR", description := "", picker := "", pickerGroup := "", pickerOptions := "" }
  let column : Document.Block :=
    { block with keyType := "ROOT", key := "column", slots := [⟨"header", ""⟩, ⟨"content", ""⟩] }
  let text : Document.Block :=
    { block with
      keyType := "TEXT", key := "text", slot := some "header", properties := [color],
      data := [title] }
  let stop : Document.Trigger := { trigger with mode := .finish, name := "stop" }
  let chain : Forest Document.Trigger :=
    [.node { trigger with data := [title] } [.node stop []]]
  let button : Document.Block :=
    { block with keyType := "BUTTON", key := "button", actions := [⟨"", "onClick", chain⟩] }
  { schema := "frame.json"
    name := "profile"
    route := "/profile"
    kind := .frame
    isStarter := true
    vars := [⟨"title", "Hello", .string⟩]
    blocks := [.node column [.node text [], .node button []]] }

/-- Flattens by the standard settings, with ids in sequence. -/
def Flattener.standard : Flattener String := ⟨.standard, .acceptAll, .sequential "id"⟩

theorem Flattener.faults_profile : Flattener.standard.faults .profile = [] := by decide

end FrameTree
