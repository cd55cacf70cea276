import FrameTree.Rebuild
import FrameTree.Schema.Check

/-!
# The command line

Two commands work on files. `gen` flattens a document and prints the frame or writes it to a file;
`rebuild` turns a flat frame back into a document file, and takes the schema reference from the file
it replaces unless one is given. How a document is checked against its schema is up to a checker
(`Command.runWith`).

**Plans** (`Command.plan`). What a command does is decided by reading alone. A plan ends without
touching a file, or with one write as its very last step; so a run that fails has changed nothing.

**Usage.** Options are given as `--name value`, `--name=value`, `-n value`, `-nvalue` or `-n=value`,
each at most once.
-/

namespace FrameTree

/-- A command with its options. -/
inductive Command where
  | generate (path : String) (schemaFile settings out : Option String) (syncPayload : Bool)
  | rebuild (flat path : String) (schema settings : Option String)
deriving DecidableEq, Repr, Inhabited

namespace Command

/-! ## Usage -/

/-- An option: its name, its letter, and whether it takes a value. -/
structure Flag where
  name : String
  letter : Option Char
  takesValue : Bool
deriving DecidableEq, Repr

def generateFlags : List Flag :=
  [⟨"path", some 'p', true⟩, ⟨"schema-file", none, true⟩, ⟨"config", some 'c', true⟩,
    ⟨"out", some 'o', true⟩, ⟨"sync-payload", none, false⟩]

def rebuildFlags : List Flag :=
  [⟨"flat", some 'f', true⟩, ⟨"path", some 'p', true⟩, ⟨"schema", some 's', true⟩,
    ⟨"config", some 'c', true⟩]

/-- What the arguments ask for. -/
inductive Usage where
  | run (command : Command)
  /-- The description of the usage, or the version. -/
  | help
  | wrong
deriving DecidableEq, Repr, Inhabited

/-- The next argument as a value: it must not look like an option. -/
def nextValue? : List String → Option (String × List String)
  | [] => none
  | v :: rest => if v.length > 1 && v.startsWith "-" then none else some (v, rest)

/-- One option at the front of the arguments: its flag, its value, and the arguments after it. Every
option with a letter takes a value. -/
def option? (flags : List Flag) (arg : String) (rest : List String) :
    Option (Flag × String × List String) :=
  match arg.toList with
  | '-' :: '-' :: body => do
    let (name, value) := body.span (· != '=')
    let flag ← flags.find? (·.name.toList == name)
    match value, flag.takesValue with
    | '=' :: value, true => return (flag, String.ofList value, rest)
    | [], true =>
      let (value, rest) ← nextValue? rest
      return (flag, value, rest)
    | [], false => return (flag, "", rest)
    | _, _ => none
  | '-' :: letter :: body => do
    let flag ← flags.find? (·.letter == some letter)
    match body with
    | [] =>
      let (value, rest) ← nextValue? rest
      return (flag, value, rest)
    | '=' :: value => return (flag, String.ofList value, rest)
    | value => return (flag, String.ofList value, rest)
  | _ => none

/-- Does the argument ask for a description of the usage? -/
def asksHelp (arg : String) : Bool := arg == "--help" || arg == "-h"

/-- The options of a command with their values, or a request for help, or wrong usage. -/
def options (flags : List Flag) : (steps : Nat) → List String → List (String × String) →
    Except Usage (List (String × String))
  | 0, _, _ => .error .wrong
  | _ + 1, [], given => .ok given
  | steps + 1, arg :: rest, given =>
    if asksHelp arg then .error .help
    else if arg == "--" then if rest.isEmpty then .ok given else .error .wrong
    else
      match option? flags arg rest with
      | none => .error .wrong
      | some (flag, value, rest) =>
        if (given.lookup flag.name).isSome then .error .wrong
        else options flags steps rest ((flag.name, value) :: given)

/-- The commands that can be described. -/
def topics : List String := ["gen", "rebuild", "help"]

/-- The command of the given options; some of them are required. A description can be asked for one
command at most. -/
def usage : List String → Usage
  | "gen" :: args =>
    match options generateFlags (args.length + 1) args [] with
    | .error u => u
    | .ok given =>
      match given.lookup "path" with
      | none => .wrong
      | some path =>
        .run (.generate path (given.lookup "schema-file") (given.lookup "config")
          (given.lookup "out") (given.lookup "sync-payload").isSome)
  | "rebuild" :: args =>
    match options rebuildFlags (args.length + 1) args [] with
    | .error u => u
    | .ok given =>
      match given.lookup "flat", given.lookup "path" with
      | some flat, some path =>
        .run (.rebuild flat path (given.lookup "schema") (given.lookup "config"))
      | _, _ => .wrong
  | "help" :: topic => if topic.length ≤ 1 && topic.all topics.contains then .help else .wrong
  | arg :: _ => if asksHelp arg || arg == "--version" || arg == "-V" then .help else .wrong
  | [] => .wrong

/-! ## Plans -/

/-- What remains to be done once everything has been read. -/
inductive Plan where
  | finish (output : String)
  | fail (message : String)
  /-- Writes a text, with the message of a failure and the output of success. -/
  | write (path text : String) (failure : AccessError → String) (output : String)

/-- The settings of a run. -/
def settingsOf (files : FileView) : Option String → Except Error Settings
  | none => .ok .standard
  | some path => Settings.load files path

/-- An error ends the run with its wording. -/
def orMessage {α : Type} : Except Error α → Except String α
  | .ok a => .ok a
  | .error e => .error e.message

/-- The schemas of a run: the local copy of the document's schema, if one is given. -/
def schemasOf (files : FileView) (reference : String) :
    Option String → Except String SchemaStore
  | none => .ok []
  | some path =>
    match files.read path with
    | .error e => .error s!"Failed to read schema file '{path}': {e.message}"
    | .ok text =>
      match Json.parse text with
      | .error reason => .error s!"Failed to parse schema JSON: {reason.message}"
      | .ok schema => .ok [(reference, schema)]

/-- A line of output. -/
def line (text : String) : String := text ++ "\n"

/-- The text of a frame that is generated or handed over. -/
def frameText (F : Frame String) (syncPayload : Bool) : String :=
  if syncPayload then (SyncInput.ofFrame F).toJson.compact else F.toProduction.compact

def planGenerate (check : Schema.Checker) (files : FileView) (I : Issuer String) (path : String)
    (schemaFile settings out : Option String) (syncPayload : Bool) : Except String Plan := do
  if !files.isFile path then throw s!"Could not find the file under: {path}"
  let d ← orMessage (Document.load files path)
  let settings ← orMessage (settingsOf files settings)
  let schemas ← schemasOf files d.schema schemaFile
  let flattener : Flattener String := ⟨settings, schemas.validatorWith check files, I⟩
  match (flattener.flatten d).run .empty with
  | .error e _ => throw e.message
  | .ok (.rejected violations) _ =>
    return .finish (String.join (violations.map fun v => line s!"- {v}"))
  | .ok (.flattened F) _ =>
    let text := frameText F syncPayload
    match out with
    | none => return .finish (line text)
    | some out =>
      return .write out text (fun e => s!"Failed to write '{out}': {e.message}")
        (line s!"Frame written to '{out}'")

/-- The schema reference of the document at a path, if there is one. -/
def schemaAt? (files : FileView) (path : String) : Option String :=
  match Document.load files path with
  | .ok d => if d.schema.isEmpty then none else some d.schema
  | .error _ => none

def planRebuild (files : FileView) (flat path : String) (schema settings : Option String) :
    Except String Plan := do
  let F ← orMessage (Frame.load files flat)
  match schema.or (schemaAt? files path) with
  | none => throw "No $schema given and none found in the existing frame file"
  | some schema =>
    let settings ← orMessage (settingsOf files settings)
    let d ← orMessage (Rebuild.document settings F schema)
    if d.route.isEmpty then throw "Could not find frame route"
    return .write path d.print (fun e => (Error.inaccessible path e.message).message)
      (line s!"Frame successfully synced to '{path}'")

/-- What a command does, given the files as they are. -/
def plan (check : Schema.Checker) (files : FileView) (I : Issuer String) (c : Command) : Plan :=
  let result :=
    match c with
    | .generate path schemaFile settings out syncPayload =>
      planGenerate check files I path schemaFile settings out syncPayload
    | .rebuild flat path schema settings => planRebuild files flat path schema settings
  match result with
  | .ok p => p
  | .error message => .fail message

/-- The files that a command may look at, given those that have been looked at already: a document
names the file of its schema. -/
def paths (files : FileView) : Command → List String
  | .generate path schemaFile settings _ _ =>
    [path] ++ schemaFile.toList ++ settings.toList
      ++ (schemaAt? files path).toList.map SchemaStore.pathOf
  | .rebuild flat path _ settings => [flat, path] ++ settings.toList

/-! ## Runs -/

/-- What a run leaves behind besides files. -/
structure Report where
  code : Nat
  output : String
  error : Option String
deriving DecidableEq, Repr, Inhabited

/-- Carries out a plan on a store. -/
def Plan.execute (s : FileStore) : Plan → Report × FileStore
  | .finish output => (⟨0, output, none⟩, s)
  | .fail message => (⟨1, "", some message⟩, s)
  | .write path text failure output =>
    match s.write path (some text) with
    | .ok s' => (⟨0, output, none⟩, s')
    | .error e => (⟨1, "", some (failure e)⟩, s)

/-- A run with the given arguments on a store. -/
def runWith (check : Schema.Checker) (s : FileStore) (I : Issuer String) (args : List String) :
    Report × FileStore :=
  match usage args with
  | .run c => (c.plan check s.view I).execute s
  | .help => (⟨0, "", none⟩, s)
  | .wrong => (⟨2, "", none⟩, s)

/-- A run of the program. -/
def run (s : FileStore) (I : Issuer String) (args : List String) : Report × FileStore :=
  runWith Schema.check s I args

end Command

end FrameTree
