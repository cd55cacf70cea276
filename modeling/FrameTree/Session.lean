import FrameTree.Frame.Edit
import FrameTree.Frame.Query
import FrameTree.Rebuild
import FrameTree.Schema.Check

/-!
# Sessions

A session works on one document and one frame, with one issuer that goes on counting and the files
of a working directory. A step that fails leaves the session as it was, except that the ids and the
verdicts it used up stay counted.
-/

namespace FrameTree

/-- What a session holds between its steps. -/
structure Session where
  settings : Settings
  /-- The schemas loaded beforehand; without any, every document is accepted. -/
  schemas : Option SchemaStore
  issuer : Issuer String
  ledger : Ledger
  document : Document
  frame : Frame String
  files : FileStore

namespace Session

/-- A session at its start. -/
def start (settings : Settings) (schemas : Option SchemaStore) (issuer : Issuer String) : Session :=
  { settings
    schemas
    issuer
    ledger := .empty
    document := default
    frame := default
    files := .empty }

/-- The validator of a session: schemas may be files of the session. -/
def validator (s : Session) : Validator :=
  match s.schemas with
  | none => .acceptAll
  | some schemas => schemas.validator s.files.view

def flattener (s : Session) : Flattener String := ⟨s.settings, s.validator, s.issuer⟩

/-- A step of a session. -/
inductive Step where
  | configure (text : Option String)
  | parseDocument (text : String)
  | parseFrame (text : String)
  | flatten
  | rebuild (schema : String)
  | issued
  | consulted
  | lastDocument
  | sync
  | navigate (query : Frame.Query)
  | edit (edit : Frame.Edit)
  | write (path : String) (text : Option String)
  | makeDirectory (path : String)
  | read (path : String)
  | loadDocument (path : String)
  | loadFrame (path : String)
  | loadSettings (path : String)
  | saveDocument (path : String)
deriving Inhabited

/-- What a step shows. -/
inductive Reply where
  | settings (settings : Settings)
  | document (document : Document)
  | frame (frame : Frame String)
  | outcome (outcome : Outcome String)
  | count (n : Nat)
  | value (value : Option Json)
  | pairs (pairs : Option (List (String × String)))
  | edited (frame : Option (Frame String))
  | text (text : Option String)
  | success (done : Bool)
  | saved (text : Option String)

/-- A part of a session that may fail. -/
abbrev Working := EStateM Error Session

/-- A task that does not change the session by itself. -/
def attempt {α : Type} (task : Except Error α) : Working α :=
  match task with
  | .ok a => pure a
  | .error e => throw e

def useSettings (settings : Settings) : Working Reply := do
  modify fun s => { s with settings }
  return .settings settings

def useDocument (document : Document) : Working Reply := do
  modify fun s => { s with document }
  return .document document

def useFrame (frame : Frame String) : Working Reply := do
  modify fun s => { s with frame }
  return .frame frame

/-- Files after a change that may be refused. -/
def useFiles (change : FileStore → Except AccessError FileStore) : Working Reply := do
  match change (← get).files with
  | .ok files =>
    modify fun s => { s with files }
    return .success true
  | .error _ => return .success false

/-- Flattening, entered into the ledger of the session. -/
def flatten : Working (Outcome String) := fun s =>
  match s.flattener.flatten s.document s.ledger with
  | .ok outcome ledger => .ok outcome { s with ledger }
  | .error e ledger => .error e { s with ledger }

/-- Carries out a step. -/
def perform : Step → Working Reply
  | .configure none => useSettings .standard
  | .configure (some text) => do
    useSettings (← attempt (Json.Reading.orError (Settings.parse text)))
  | .parseDocument text => do
    useDocument (← attempt (Json.Reading.orError (Document.parse text)))
  | .parseFrame text => do useFrame (← attempt (Json.Reading.orError (Frame.parse text)))
  | .flatten => do
    let outcome ← flatten
    match outcome with
    | .flattened frame => modify fun s => { s with frame }
    | .rejected _ => pure ()
    return .outcome outcome
  | .rebuild schema => do
    let s ← get
    useDocument (← attempt (Rebuild.document s.settings s.frame schema))
  | .issued => return .count (← get).ledger.issued
  | .consulted => return .count (← get).ledger.consulted
  | .lastDocument => return .value (← get).ledger.lastDocument
  | .sync => return .value (some (SyncInput.ofFrame (← get).frame).toJson)
  | .navigate query => return .pairs ((← get).frame.ask query)
  | .edit edit => do
    let changed := (← get).frame.change edit
    if let some frame := changed then modify fun s => { s with frame }
    return .edited changed
  | .write path text => useFiles (·.write path text)
  | .makeDirectory path => useFiles (·.makeDirectory path)
  | .read path => return .text ((← get).files.read path).toOption
  | .loadDocument path => do useDocument (← attempt (Document.load (← get).files.view path))
  | .loadFrame path => do useFrame (← attempt (Frame.load (← get).files.view path))
  | .loadSettings path => do useSettings (← attempt (Settings.load (← get).files.view path))
  | .saveDocument path => do
    let s ← get
    let files ← attempt (s.document.save s.files path)
    modify fun s => { s with files }
    return .saved (files.read path).toOption

end Session

end FrameTree
