import FrameTree.Proofs.Plans
import FrameTree.Proofs.Shapes
import FrameTree.Proofs.Stable
import FrameTree.Proofs.Verdict

/-!
# There and back on disk

`gen` writes the frame of a document to a file. If `rebuild` then reads that file and writes over
the document, all that changes in the document is that it is in normal form: the schema reference is
taken from the document itself, and the settings are those of the same file as before.

**What was read** (`Command.generate_iff`). A run that says that it has written a frame has read the
document, the settings and the schema, has flattened, and has written.

Main result: `Command.rebuild_of_generate`.
-/

namespace FrameTree

open Command

/-- The settings are the same if their file is. -/
theorem Command.settingsOf_eq_ok {v v' : FileView} {config : Option String} {settings : Settings}
    (h : settingsOf v config = .ok settings)
    (hread : ∀ p ∈ config.toList, ∀ text, v.read p = .ok text → v'.read p = .ok text) :
    settingsOf v' config = .ok settings := by
  cases config with
  | none => exact h
  | some p =>
    obtain ⟨text, htext, hparse⟩ := Settings.load_eq_ok_iff.1 h
    have htext' := hread p (by simp) text htext
    exact Settings.load_eq_ok_iff.2 ⟨text, htext', hparse⟩

/-! ## Generated frames are read back -/

/-- Positions are machine words, if there are not more blocks than machine words. -/
theorem Document.position_lt {ι : Type} {I : Issuer ι} {settings : Settings} {n : Nat}
    {d : Document} (hd : (Forest.labels d.blocks).length ≤ Json.powerOfTwo 64) :
    ∀ b ∈ (d.placed I settings n).blocks, b.position < Json.powerOfTwo 64 := by
  intro b hb
  obtain ⟨s, hs, rfl⟩ := List.mem_map.1 hb
  have hplace := Forest.place_lt hs
  rw [Nat.zero_add] at hplace
  exact Nat.lt_of_lt_of_le hplace hd

theorem Frame.parse_production {F : Frame String}
    (hF : ∀ b ∈ F.blocks, b.position < Json.powerOfTwo 64) :
    parse F.toProduction.compact = .ok F := by
  have hwraps : Wraps F.toJson F.toProduction :=
    .production (by simp) (by simp) List.mem_cons_self List.mem_cons_self
  have hwithin : F.toProduction.Within Json.nestingRoom := by
    have hroom : F.toJson.Within (Json.nestingRoom - 2) := within hF 118
    simpa [toProduction, Json.nestingRoom] using hroom
  exact parse_of_wraps hF (worded hF).self hwraps hwithin List.mem_cons_self

namespace Command

variable {check : Schema.Checker} {s s' : FileStore} {I J : Issuer String} {path out : String}
  {schemaFile config : Option String} {d : Document}

/-! ## Generating -/

/-- A plan to write succeeds just if the write does. -/
theorem execute_write_iff {text output : String} {failure : AccessError → String} :
    (Plan.write path text failure output).execute s = (⟨0, output, none⟩, s') ↔
      s.write path (some text) = .ok s' := by
  rw [Plan.execute]
  cases s.write path (some text) <;> simp

/-- A list of violations is not mistaken for a frame that was written. -/
theorem listing_ne_written (violations : List String) (out : String) :
    listing violations ≠ line s!"Frame written to '{out}'" := by
  intro h
  have hlist := congrArg String.toList h
  cases violations with
  | nil => simp [listing, line] at hlist
  | cons v violations => simp [listing, line, toString] at hlist

/-- A run says that it has written a frame just if it has read everything, has flattened, and has
written. -/
theorem generate_iff :
    ((generate path schemaFile config (some out) false).plan check s.view I).execute s =
        (⟨0, line s!"Frame written to '{out}'", none⟩, s') ↔
      ∃ d settings schemas F ledger,
        Document.load s.view path = .ok d ∧ settingsOf s.view config = .ok settings ∧
        schemasOf s.view d.schema schemaFile = .ok schemas ∧
        Flattener.flatten ⟨settings, schemas.validatorWith check s.view, I⟩ d .empty =
          .ok (.flattened F) ledger ∧
        s.write out (some F.toProduction.compact) = .ok s' := by
  constructor
  · intro h
    rcases plan_generate_cases with ⟨message, hplan⟩ |
      ⟨outcome, ⟨d, settings, schemas, ledger, -, hd, hsettings, hschemas, hflatten⟩, hplan⟩
    · rw [hplan] at h
      cases h
    · rw [hplan] at h
      cases outcome with
      | rejected violations =>
        simp only [planFor, Plan.execute, Prod.mk.injEq, Report.mk.injEq] at h
        exact absurd h.1.2.1 (listing_ne_written violations out)
      | flattened F =>
        have hwrite := execute_write_iff.1 h
        exact ⟨d, settings, schemas, F, ledger, hd, hsettings, hschemas, hflatten, hwrite⟩
  · rintro ⟨d, settings, schemas, F, ledger, hd, hsettings, hschemas, hflatten, hwrite⟩
    obtain ⟨text, hread, -⟩ := Document.load_eq_ok_iff.1 hd
    have hfile : s.view.isFile path = true := FileStore.isFile_of_read hread
    have hplan : planGenerate check s.view I path schemaFile config (some out) false = .ok _ :=
      planGenerate_eq_ok_iff.2
        ⟨_, ⟨d, settings, schemas, ledger, hfile, hd, hsettings, hschemas, hflatten⟩, rfl⟩
    rw [plan, hplan]
    exact execute_write_iff.2 hwrite

/-! ## Rebuilding -/

/-- A run rebuilds the document of the frame, if both files can be read and the settings are in
order. -/
theorem rebuild_of_loaded {settings : Settings} {F : Frame String} {d' : Document} {text : String}
    (hF : Frame.load s.view out = .ok F) (hread : s.read path = .ok text)
    (hparse : Document.parse text = .ok d) (hschema : d.schema ≠ "")
    (hsettings : settingsOf s.view config = .ok settings)
    (hrebuild : Rebuild.document settings F d.schema = .ok d') (hroute : d'.route ≠ "") :
    ∃ s', ((rebuild out path none config).plan check s.view I).execute s =
        (⟨0, line s!"Frame successfully synced to '{path}'", none⟩, s') ∧
      s'.read path = .ok d'.print := by
  obtain ⟨s', hwrite⟩ := FileStore.exists_write_of_read hread (some d'.print)
  have hd : Document.load s.view path = .ok d := Document.load_eq_ok_iff.2 ⟨text, hread, hparse⟩
  have hreference : (none : Option String).or (schemaAt? s.view path) = some d.schema := by
    simp [schemaAt?, hd, hschema]
  have hplan := planRebuild_eq_ok_iff.2
    ⟨d', ⟨F, d.schema, settings, hF, hreference, hsettings, hrebuild, hroute⟩, rfl⟩
  refine ⟨s', ?_, FileStore.read_of_write hwrite⟩
  rw [plan, hplan]
  exact execute_write_iff.2 hwrite

/-- **There and back on disk.** Whatever the schema checker is, suppose that `gen` has written the
frame of a document with a route, neither over the document nor over the settings, and that the ids
were fresh. Then `rebuild` with the same settings succeeds, and leaves the document printed in its
normal form, with the schema reference that it had. A document has no more blocks than there are
machine words to number them. -/
theorem rebuild_of_generate {gen reb : List String}
    (hgen : usage gen = .run (.generate path schemaFile config (some out) false))
    (hreb : usage reb = .run (.rebuild out path none config))
    (hd : Document.load s.view path = .ok d) (hroute : d.route ≠ "")
    (hout : ∀ p ∈ path :: config.toList, s.locate out ≠ s.locate p)
    (hsize : (Forest.labels d.blocks).length ≤ Json.powerOfTwo 64) (hI : I.Fresh 0 d.idCount)
    (hrun : runWith check s I gen = (⟨0, line s!"Frame written to '{out}'", none⟩, s')) :
    ∃ settings s'', settingsOf s.view config = .ok settings ∧
      runWith check s' J reb =
        (⟨0, line s!"Frame successfully synced to '{path}'", none⟩, s'') ∧
      s''.read path = .ok (d.normal settings.defaultSlot).print := by
  rw [runWith, hgen] at hrun
  obtain ⟨d', settings, schemas, F, ledger, hd', hsettings, -, hflatten, hwrite⟩ :=
    generate_iff.1 hrun
  cases hd.symm.trans hd'
  obtain ⟨hfaults, rfl, -⟩ := Flattener.eq_of_flattened hflatten
  obtain ⟨hschema, -⟩ := (Flattener.faults_eq_nil_iff _ d).1 hfaults
  have hkeep : ∀ p ∈ path :: config.toList, ∀ text, s.read p = .ok text → s'.read p = .ok text :=
    fun p hp text hread => FileStore.read_of_write_elsewhere hwrite hread (hout p hp)
  have hframe : Frame.load s'.view out = .ok (d.placed I settings 0) :=
    Frame.load_eq_ok_iff.2 ⟨_, FileStore.read_of_write hwrite,
      Frame.parse_production (Document.position_lt hsize)⟩
  obtain ⟨text, hread, hparse⟩ := Document.load_eq_ok_iff.1 hd
  have hsettings' : settingsOf s'.view config = .ok settings :=
    settingsOf_eq_ok hsettings fun p hp => hkeep p (List.mem_cons_of_mem path hp)
  have hround := Rebuild.document_of_no_faults hfaults (n := 0) (by rwa [Nat.zero_add])
  obtain ⟨s'', hplan, hresult⟩ := rebuild_of_loaded (I := J) hframe
    (hkeep path List.mem_cons_self text hread) hparse hschema hsettings' hround hroute
  refine ⟨settings, s'', hsettings, ?_, hresult⟩
  rw [runWith, hreb]
  exact hplan

/-- A document and its schema in the working directory, and a directory for other files. -/
def desk : FileStore where
  home := ["home"]
  entry
    | ["home", "profile.json"] => some (.file (some Document.profile.print))
    | ["home", "schema.json"] => some (.file (some (Json.bool true).compact))
    | ["tmp"] => some .directory
    | _ => none

theorem locate_desk :
    desk.locate "/home/profile.json" = .ok ["home", "profile.json"] ∧
      desk.locate "schema.json" = .ok ["home", "schema.json"] ∧
      desk.locate "/tmp/flat.json" = .ok ["tmp", "flat.json"] := by
  refine ⟨?_, ?_, ?_⟩
  · rw [FileStore.locate_eq_follow (by decide) (by decide) (by decide)]
    decide +kernel
  · exact FileStore.locate_name (by decide) (by decide) (by decide) (by decide)
  · rw [FileStore.locate_eq_follow (by decide) (by decide) (by decide)]
    decide +kernel

theorem read_desk :
    desk.read "/home/profile.json" = .ok Document.profile.print ∧
      desk.read "schema.json" = .ok (Json.bool true).compact :=
  ⟨FileStore.read_eq_ok_iff.2 ⟨_, locate_desk.1, rfl⟩,
    FileStore.read_eq_ok_iff.2 ⟨_, locate_desk.2.1, rfl⟩⟩

theorem load_desk : Document.load desk.view "/home/profile.json" = .ok .profile := by
  have hnesting : Document.profile.toJson.nesting ≤ Json.nestingRoom := by decide +kernel
  have htidy : Document.profile.Tidy := by decide
  refine Document.load_eq_ok_iff.2 ⟨_, read_desk.1, ?_⟩
  rw [Document.parse_print, Json.fitted, if_pos hnesting, Document.tidy_eq htidy]

/-- The flat frame of the document. -/
def flatProfile : Frame String := Document.profile.placed (.sequential "id") .standard 0

/-- The settings, the schema and the validator that `gen` takes from the directory. -/
def deskFlattener : Flattener String :=
  ⟨.standard, SchemaStore.validator [("frame.json", .bool true)] desk.view, .sequential "id"⟩

theorem flatten_desk :
    deskFlattener.flatten .profile .empty =
      .ok (.flattened flatProfile) { deskFlattener.asked .profile .empty with issued := 13 } := by
  have hlookup :
      List.lookup "frame.json" [("frame.json", Json.bool true)] = some (.bool true) := rfl
  have hvalid :
      deskFlattener.validator (Flattener.submitted .profile) "frame.json" = .ok .valid := by
    show SchemaStore.validatorWith Schema.check [("frame.json", .bool true)] desk.view _ _ = _
    rw [SchemaStore.validatorWith_of_lookup hlookup, Schema.check_true]
  have hfaults : deskFlattener.faults .profile = [] := by
    obtain ⟨hschema, hwithin, -, hwalk⟩ :=
      (Flattener.faults_eq_nil_iff _ _).1 Flattener.faults_profile
    exact (Flattener.faults_eq_nil_iff _ _).2 ⟨hschema, hwithin, hvalid, hwalk⟩
  exact Flattener.flatten_of_no_faults .empty hfaults

/-- The directories after the frame was written. -/
def deskAfter : FileStore :=
  desk.set ["tmp", "flat.json"] (.file (some flatProfile.toProduction.compact))

theorem rebuild_of_generate_desk :
    let gen :=
      ["gen", "--path", "/home/profile.json", "--schema-file=schema.json", "-o", "/tmp/flat.json"]
    let reb := ["rebuild", "--flat=/tmp/flat.json", "-p", "/home/profile.json"]
    (usage gen =
        .run (.generate "/home/profile.json" (some "schema.json") none (some "/tmp/flat.json")
          false) ∧
      usage reb = .run (.rebuild "/tmp/flat.json" "/home/profile.json" none none) ∧
      Document.load desk.view "/home/profile.json" = .ok .profile ∧
      Document.profile.route ≠ "" ∧
      (∀ p ∈ ["/home/profile.json"], desk.locate "/tmp/flat.json" ≠ desk.locate p) ∧
      (Forest.labels Document.profile.blocks).length ≤ Json.powerOfTwo 64 ∧
      (Issuer.sequential "id").Fresh 0 Document.profile.idCount ∧
      run desk (.sequential "id") gen =
        (⟨0, line "Frame written to '/tmp/flat.json'", none⟩, deskAfter)) ∧
    ∃ settings s', settingsOf desk.view none = .ok settings ∧
      run deskAfter (.sequential "x") reb =
        (⟨0, line "Frame successfully synced to '/home/profile.json'", none⟩, s') ∧
      s'.read "/home/profile.json" = .ok (Document.profile.normal settings.defaultSlot).print := by
  intro gen reb
  have hgen : usage gen =
      .run (.generate "/home/profile.json" (some "schema.json") none (some "/tmp/flat.json")
        false) := by
    decide +kernel
  have hreb : usage reb = .run (.rebuild "/tmp/flat.json" "/home/profile.json" none none) := by
    decide +kernel
  obtain ⟨hprofile, -, hflat⟩ := locate_desk
  have hout : ∀ p ∈ ["/home/profile.json"], desk.locate "/tmp/flat.json" ≠ desk.locate p := by
    simp [hflat, hprofile]
  have hsize : (Forest.labels Document.profile.blocks).length ≤ Json.powerOfTwo 64 := by decide
  have hfresh : (Issuer.sequential "id").Fresh 0 Document.profile.idCount :=
    Issuer.fresh_sequential "id" 0 _
  have hrun : run desk (.sequential "id") gen =
      (⟨0, line "Frame written to '/tmp/flat.json'", none⟩, deskAfter) := by
    have htrue : (Json.bool true).Within Json.nestingRoom := Json.within_bool true
    have hparse := htrue.parse_eq List.mem_cons_self
    have hschemas : schemasOf desk.view "frame.json" (some "schema.json") =
        .ok [("frame.json", .bool true)] := by
      simp only [schemasOf, FileStore.view, read_desk.2, hparse]
      rfl
    have hwrite :
        desk.write "/tmp/flat.json" (some flatProfile.toProduction.compact) = .ok deskAfter :=
      FileStore.write_eq_ok_iff.2
        ⟨by decide +kernel, _, hflat, by decide, fun _ => by simp [FileStore.at?, desk], rfl⟩
    rw [run, runWith, hgen]
    exact generate_iff.2
      ⟨.profile, .standard, _, flatProfile, _, load_desk, rfl, hschemas, flatten_desk, hwrite⟩
  have hroute : Document.profile.route ≠ "" := by decide
  refine ⟨⟨hgen, hreb, load_desk, hroute, hout, hsize, hfresh, hrun⟩, ?_⟩
  exact rebuild_of_generate hgen hreb load_desk hroute hout hsize hfresh hrun

end Command

end FrameTree
