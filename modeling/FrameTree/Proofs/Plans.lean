import FrameTree.Command
import FrameTree.Proofs.Files

/-!
# Runs do no damage

A command reads first and writes last. Whatever the files are, its plan either touches none of them
or writes the one that the command names (`Command.target_of_plan`). So a run that fails leaves all
files as they were, and any other run changes at most that one.

**Plans.** There is a plan for `gen` just if everything could be read and flattening came to an
outcome, and a plan for `rebuild` just if everything could be read and the document was rebuilt
(`Command.planGenerate_eq_ok_iff`, `Command.planRebuild_eq_ok_iff`). Everything else ends the run
with a message.

Main result: `Command.run_undamaged`.
-/

namespace FrameTree

namespace Command

variable {check : Schema.Checker} {s : FileStore} {files : FileView} {I : Issuer String}
  {path flat : String} {schemaFile config out schema : Option String} {syncPayload : Bool}
  {p : Plan}

/-- The file that a command names for its result. -/
def target : Command → Option String
  | .generate _ _ _ out _ => out
  | .rebuild _ path _ _ => some path

/-! ## Plans -/

theorem orMessage_eq_ok_iff {α : Type} {x : Except Error α} {a : α} :
    orMessage x = .ok a ↔ x = .ok a := by
  cases x <;> simp [orMessage]

/-- What `gen` reads can be read, and the document in it is flattened with an outcome. -/
def Flattens (check : Schema.Checker) (files : FileView) (I : Issuer String) (path : String)
    (schemaFile config : Option String) (outcome : Outcome String) : Prop :=
  ∃ d settings schemas ledger,
    files.isFile path ∧ Document.load files path = .ok d ∧
    settingsOf files config = .ok settings ∧ schemasOf files d.schema schemaFile = .ok schemas ∧
    Flattener.flatten ⟨settings, schemas.validatorWith check files, I⟩ d .empty =
      .ok outcome ledger

/-- The violations of a document, line by line. -/
def listing (violations : List String) : String :=
  String.join (violations.map fun v => line s!"- {v}")

/-- What `gen` does with an outcome. -/
def planFor (out : Option String) (syncPayload : Bool) : Outcome String → Plan
  | .rejected violations => .finish (listing violations)
  | .flattened F =>
    match out with
    | none => .finish (line (frameText F syncPayload))
    | some out =>
      .write out (frameText F syncPayload) (fun e => s!"Failed to write '{out}': {e.message}")
        (line s!"Frame written to '{out}'")

theorem planGenerate_eq_ok_iff :
    planGenerate check files I path schemaFile config out syncPayload = .ok p ↔
      ∃ outcome, Flattens check files I path schemaFile config outcome ∧
        p = planFor out syncPayload outcome := by
  unfold planGenerate
  by_cases hfile : files.isFile path
  · simp only [hfile, Bool.not_true, Bool.false_eq_true, if_false, bind_eq_ok_iff,
      orMessage_eq_ok_iff]
    constructor
    · rintro ⟨d, hd, settings, hsettings, schemas, hschemas, h⟩
      rw [EStateM.run] at h
      cases hflatten :
        Flattener.flatten ⟨settings, schemas.validatorWith check files, I⟩ d .empty with
      | error e ledger =>
        rw [hflatten] at h
        cases h
      | ok outcome ledger =>
        refine ⟨outcome, ⟨d, settings, schemas, ledger, hfile, hd, hsettings, hschemas, hflatten⟩,
          ?_⟩
        rw [hflatten] at h
        cases outcome with
        | rejected violations => exact (Except.ok.inj h).symm
        | flattened F => cases out <;> exact (Except.ok.inj h).symm
    · rintro ⟨outcome, ⟨d, settings, schemas, ledger, -, hd, hsettings, hschemas, hflatten⟩, rfl⟩
      refine ⟨d, hd, settings, hsettings, schemas, hschemas, ?_⟩
      rw [EStateM.run, hflatten]
      cases outcome with
      | rejected violations => rfl
      | flattened F => cases out <;> rfl
  · simp only [hfile, Bool.not_false, if_true]
    refine iff_of_false nofun ?_
    rintro ⟨-, ⟨-, -, -, -, hfile', -⟩, -⟩
    exact hfile hfile'

/-- What `rebuild` reads can be read, a schema reference is there, and the frame is rebuilt as a
document with a route. -/
def Rebuilds (files : FileView) (flat path : String) (schema config : Option String)
    (d : Document) : Prop :=
  ∃ F reference settings,
    Frame.load files flat = .ok F ∧ schema.or (schemaAt? files path) = some reference ∧
    settingsOf files config = .ok settings ∧ Rebuild.document settings F reference = .ok d ∧
    d.route ≠ ""

/-- What `rebuild` does with a document. -/
def planWriting (path : String) (d : Document) : Plan :=
  .write path d.print (fun e => (Error.inaccessible path e.message).message)
    (line s!"Frame successfully synced to '{path}'")

theorem planRebuild_eq_ok_iff :
    planRebuild files flat path schema config = .ok p ↔
      ∃ d, Rebuilds files flat path schema config d ∧ p = planWriting path d := by
  unfold planRebuild
  simp only [bind_eq_ok_iff, orMessage_eq_ok_iff]
  constructor
  · rintro ⟨F, hF, h⟩
    cases hreference : schema.or (schemaAt? files path) with
    | none =>
      rw [hreference] at h
      cases h
    | some reference =>
      simp only [hreference, bind_eq_ok_iff, orMessage_eq_ok_iff] at h
      obtain ⟨settings, hsettings, d, hd, h⟩ := h
      by_cases hroute : d.route = ""
      · simp only [String.isEmpty_iff, hroute, if_true] at h
        cases h
      · refine ⟨d, ⟨F, reference, settings, hF, hreference, hsettings, hd, hroute⟩, ?_⟩
        simp only [String.isEmpty_iff, hroute, if_false] at h
        exact (Except.ok.inj h).symm
  · rintro ⟨d, ⟨F, reference, settings, hF, hreference, hsettings, hd, hroute⟩, rfl⟩
    refine ⟨F, hF, ?_⟩
    simp only [hreference, bind_eq_ok_iff, orMessage_eq_ok_iff]
    refine ⟨settings, hsettings, d, hd, ?_⟩
    simp only [String.isEmpty_iff, hroute, if_false]
    rfl

theorem plan_generate_cases :
    (∃ message,
        (generate path schemaFile config out syncPayload).plan check files I = .fail message) ∨
      ∃ outcome, Flattens check files I path schemaFile config outcome ∧
        (generate path schemaFile config out syncPayload).plan check files I =
          planFor out syncPayload outcome := by
  rw [plan]
  cases hplan : planGenerate check files I path schemaFile config out syncPayload with
  | error message => exact .inl ⟨message, rfl⟩
  | ok p => exact .inr (planGenerate_eq_ok_iff.1 hplan)

theorem plan_rebuild_cases :
    (∃ message, (rebuild flat path schema config).plan check files I = .fail message) ∨
      ∃ d, Rebuilds files flat path schema config d ∧
        (rebuild flat path schema config).plan check files I = planWriting path d := by
  rw [plan]
  cases hplan : planRebuild files flat path schema config with
  | error message => exact .inl ⟨message, rfl⟩
  | ok p => exact .inr (planRebuild_eq_ok_iff.1 hplan)

/-- A plan writes no file but the one that the command names. -/
theorem target_of_plan {c : Command} {text output : String} {failure : AccessError → String}
    (h : c.plan check files I = .write path text failure output) : c.target = some path := by
  cases c with
  | generate path' schemaFile config out syncPayload =>
    rcases plan_generate_cases with ⟨message, hplan⟩ | ⟨outcome, -, hplan⟩
    · rw [hplan] at h
      cases h
    · rw [hplan] at h
      cases outcome with
      | rejected violations => cases h
      | flattened F =>
        cases out with
        | none => cases h
        | some out =>
          cases h
          rfl
  | rebuild flat path' schema config =>
    rcases plan_rebuild_cases with ⟨message, hplan⟩ | ⟨d, -, hplan⟩
    · rw [hplan] at h
      cases h
    · rw [hplan] at h
      cases h
      rfl

/-! ## Runs -/

/-- A write succeeds, or it fails and leaves the store alone. -/
theorem execute_write_cases (s : FileStore) (path text output : String)
    (failure : AccessError → String) :
    (∃ s', s.write path (some text) = .ok s' ∧
        (Plan.write path text failure output).execute s = (⟨0, output, none⟩, s')) ∨
      ∃ message,
        (Plan.write path text failure output).execute s = (⟨1, "", some message⟩, s) := by
  rw [Plan.execute]
  cases s.write path (some text) with
  | error e => exact .inr ⟨failure e, rfl⟩
  | ok s' => exact .inl ⟨s', rfl, rfl⟩

/-- A plan that is carried out leaves the store alone, or it writes and succeeds. -/
theorem execute_cases (p : Plan) (s : FileStore) :
    (p.execute s).2 = s ∨
      ∃ path text failure output, p = .write path text failure output ∧
        (p.execute s).1.code = 0 ∧ s.write path (some text) = .ok (p.execute s).2 := by
  cases p with
  | finish output => exact .inl rfl
  | fail message => exact .inl rfl
  | write path text failure output =>
    rcases execute_write_cases s path text output failure with ⟨s', hwrite, h⟩ | ⟨message, h⟩
    · rw [h]
      exact .inr ⟨path, text, failure, output, rfl, rfl, hwrite⟩
    · rw [h]
      exact .inl rfl

/-- A run leaves the store alone, or it writes the file that its command names and succeeds. -/
theorem run_cases (check : Schema.Checker) (s : FileStore) (I : Issuer String)
    (args : List String) :
    (runWith check s I args).2 = s ∨
      ∃ c path text, usage args = .run c ∧ c.target = some path ∧
        (runWith check s I args).1.code = 0 ∧
        s.write path (some text) = .ok (runWith check s I args).2 := by
  rw [runWith]
  cases husage : usage args with
  | help => exact .inl rfl
  | wrong => exact .inl rfl
  | run c =>
    dsimp only
    rcases execute_cases (c.plan check s.view I) s with
      h | ⟨path, text, failure, output, hp, hcode, h⟩
    · exact .inl h
    · exact .inr ⟨c, path, text, rfl, target_of_plan hp, hcode, h⟩

theorem flattens_of_code
    (hcode :
      (((generate path schemaFile config out syncPayload).plan check s.view I).execute s).1.code =
        0) :
    ∃ outcome, Flattens check s.view I path schemaFile config outcome := by
  rcases plan_generate_cases with ⟨message, hplan⟩ | ⟨outcome, houtcome, -⟩
  · rw [hplan] at hcode
    cases hcode
  · exact ⟨outcome, houtcome⟩

theorem rebuilds_of_code {s' : FileStore} {r : Report}
    (h : ((rebuild flat path schema config).plan check s.view I).execute s = (r, s'))
    (hcode : r.code = 0) :
    ∃ d, Rebuilds s.view flat path schema config d ∧ s.write path (some d.print) = .ok s' := by
  rcases plan_rebuild_cases with ⟨message, hplan⟩ | ⟨d, hd, hplan⟩
  · rw [hplan] at h
    cases h
    cases hcode
  · rw [hplan] at h
    refine ⟨d, hd, ?_⟩
    rcases execute_write_cases s path d.print _ _ with ⟨s'', hwrite, h'⟩ | ⟨message, h'⟩
    · cases h.symm.trans h'
      exact hwrite
    · cases h.symm.trans h'
      cases hcode

/-- **Runs do no damage.** Whatever the schema checker and the arguments are, a run that fails
leaves all files as they were, and nothing changes but what stands where the path leads that the
command names for its result. If `gen` succeeds, it has read everything and has flattened; and if
all that came of it is violations, it lists them and leaves all files as they were. If `rebuild`
succeeds, the file at its path is the document that it has rebuilt. -/
theorem run_undamaged (check : Schema.Checker) (s : FileStore) (I : Issuer String)
    (args : List String) :
    ((runWith check s I args).1.code ≠ 0 → (runWith check s I args).2 = s) ∧
      (∀ q, (runWith check s I args).2.at? q ≠ s.at? q →
        ∃ c path, usage args = .run c ∧ c.target = some path ∧ s.locate path = .ok q) ∧
      (∀ path schemaFile config out syncPayload,
        usage args = .run (.generate path schemaFile config out syncPayload) →
        ((runWith check s I args).1.code = 0 →
          ∃ outcome, Flattens check s.view I path schemaFile config outcome) ∧
        ∀ violations, Flattens check s.view I path schemaFile config (.rejected violations) →
          runWith check s I args = (⟨0, listing violations, none⟩, s)) ∧
      ∀ flat path schema config, usage args = .run (.rebuild flat path schema config) →
        (runWith check s I args).1.code = 0 →
        ∃ d, Rebuilds s.view flat path schema config d ∧
          s.write path (some d.print) = .ok (runWith check s I args).2 := by
  refine ⟨fun hcode => ?_, fun q hq => ?_, ?_, ?_⟩
  · rcases run_cases check s I args with h | ⟨c, path, text, -, -, hcode', -⟩
    · exact h
    · exact absurd hcode' hcode
  · rcases run_cases check s I args with h | ⟨c, path, text, husage, htarget, -, hwrite⟩
    · rw [h] at hq
      exact absurd rfl hq
    · exact ⟨c, path, husage, htarget, FileStore.locate_of_write hwrite hq⟩
  · intro path schemaFile config out syncPayload husage
    rw [runWith, husage]
    refine ⟨flattens_of_code, fun violations hviolations => ?_⟩
    dsimp only
    rw [plan, planGenerate_eq_ok_iff.2 ⟨_, hviolations, rfl⟩]
    rfl
  · intro flat path schema config husage
    rw [runWith, husage]
    exact rebuilds_of_code rfl

end Command

end FrameTree
