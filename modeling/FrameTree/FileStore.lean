import FrameTree.Document.Parser
import FrameTree.Document.Printer
import FrameTree.Frame.Parser
import FrameTree.Error
import FrameTree.Settings

/-!
# Files

**Views** (`FileView`). All that reading asks of files: is there a regular file at a path, and what
is its text.

**Stores** (`FileStore`). A tree of directories and files below a root, with a working directory
somewhere in it. A path that begins with a slash starts from the root, any other one from the
working directory. A path is followed step by step, and every step but the last has to be a
directory.

**Loading and saving.** Documents, frames and settings are read from the text of a file, and a
document is written as one.
-/

namespace FrameTree

/-! ## Views -/

/-- Why a file could not be read or written. -/
inductive AccessError where
  | notFound
  | alreadyThere
  | isDirectory
  | notDirectory
  | nameTooLong
  | nulInName
  | notText
  | other (message : String)
deriving DecidableEq, Repr, Inhabited

def AccessError.message : AccessError → String
  | .notFound => "No such file or directory (os error 2)"
  | .alreadyThere => "File exists (os error 17)"
  | .isDirectory => "Is a directory (os error 21)"
  | .notDirectory => "Not a directory (os error 20)"
  | .nameTooLong => "File name too long (os error 36)"
  | .nulInName => "file name contained an unexpected NUL byte"
  | .notText => "stream did not contain valid UTF-8"
  | .other message => message

/-- Files as far as reading is concerned. -/
structure FileView where
  /-- There is a regular file at the path. -/
  isFile : String → Bool
  /-- The text of the file at the path. -/
  read : String → Except AccessError String

namespace FileView

/-- The text of a file, for a task with its own errors. -/
def load (v : FileView) (path : String) : Except Error String :=
  match v.read path with
  | .ok text => .ok text
  | .error e => .error (.inaccessible path e.message)

end FileView

/-- The document in a file. -/
def Document.load (v : FileView) (path : String) : Except Error Document := do
  Json.Reading.orError (Document.parse (← v.load path))

/-- The frame in a file, in any of its shapes. -/
def Frame.load (v : FileView) (path : String) : Except Error (Frame String) := do
  Json.Reading.orError (Frame.parse (← v.load path))

/-- The settings in a file. -/
def Settings.load (v : FileView) (path : String) : Except Error Settings := do
  Json.Reading.orError (Settings.parse (← v.load path))

/-! ## Stores -/

/-- The steps from the root. -/
abbrev Path := List String

/-- What stands at a path. A file whose bytes are not text has none. -/
inductive Entry where
  | directory
  | file (text : Option String)
  /-- A file that can be neither read nor written. -/
  | barred (reason : AccessError)
deriving DecidableEq, Repr, Inhabited

/-- The entries below the root, as a process with a working directory sees them. -/
structure FileStore where
  /-- The working directory. -/
  home : Path
  entry : Path → Option Entry

namespace FileStore

/-- A store without files, whose working directory lies right below the root. -/
def empty : FileStore := ⟨["home"], fun _ => none⟩

instance : Inhabited FileStore := ⟨empty⟩

/-- What stands at a path. The root, the working directory and all between them are directories. -/
def at? (s : FileStore) (p : Path) : Option Entry :=
  if p <+: s.home then some .directory else s.entry p

/-- The store with another entry at a path. -/
def set (s : FileStore) (p : Path) (e : Entry) : FileStore :=
  { s with entry := fun q => if q = p then some e else s.entry q }

/-- The greatest number of bytes in a step of a path. -/
def maxStepSize : Nat := 255

/-- The greatest number of bytes in a path. -/
def maxPathSize : Nat := 4095

/-- Goes on from a directory, step by step. The root is above itself. -/
def follow (s : FileStore) (here : Path) : (steps : List String) → Except AccessError Path
  | [] => .ok here
  | step :: steps =>
    match s.at? here with
    | none => .error .notFound
    | some (.file _) | some (.barred _) => .error .notDirectory
    | some .directory =>
      if step == "" || step == "." then s.follow here steps
      else if step == ".." then s.follow here.dropLast steps
      else if step.utf8ByteSize > maxStepSize then .error .nameTooLong
      else s.follow (here ++ [step]) steps

/-- The steps of a path; an empty one stands before a slash at the start. -/
def steps (path : String) : List String := (path.toList.splitOn '/').map String.ofList

/-- A path without the slashes at its end; the slashes of the root stay. -/
def withoutSlashes (path : String) : String :=
  match path.toList.reverse.dropWhile (· == '/') with
  | [] => path
  | cs => String.ofList cs.reverse

/-- Where a path leads. -/
def locate (s : FileStore) (path : String) : Except AccessError Path :=
  if path.contains '\x00' then .error .nulInName
  else if path.utf8ByteSize > maxPathSize then .error .nameTooLong
  else if path.isEmpty then .error .notFound
  else s.follow (if path.startsWith "/" then [] else s.home) (steps path)

def read (s : FileStore) (path : String) : Except AccessError String := do
  match s.at? (← s.locate path) with
  | none => throw .notFound
  | some .directory => throw .isDirectory
  | some (.barred reason) => throw reason
  | some (.file none) => throw .notText
  | some (.file (some text)) => return text

def isFile (s : FileStore) (path : String) : Bool :=
  match s.locate path with
  | .ok p =>
    match s.at? p with
    | some (.file _) | some (.barred _) => true
    | _ => false
  | .error _ => false

/-- The store as reading sees it. -/
def view (s : FileStore) : FileView := ⟨s.isFile, s.read⟩

/-- Writes a file, in place of the one that is there; `none` stands for bytes that are not text. A
path with a slash at its end is that of a directory. -/
def write (s : FileStore) (path : String) (text : Option String) :
    Except AccessError FileStore := do
  let p ← s.locate (withoutSlashes path)
  match s.at? p with
  | some .directory => throw .isDirectory
  | some (.barred reason) => throw reason
  | _ => if path.endsWith '/' then throw .isDirectory else return s.set p (.file text)

/-- Makes a directory where there is nothing yet, in a directory that is there. -/
def makeDirectory (s : FileStore) (path : String) : Except AccessError FileStore := do
  let p ← s.locate (withoutSlashes path)
  match s.at? p with
  | some _ => throw .alreadyThere
  | none => return s.set p .directory

end FileStore

/-- Writes a document to a file. -/
def Document.save (d : Document) (s : FileStore) (path : String) : Except Error FileStore :=
  match s.write path (some d.print) with
  | .ok s => .ok s
  | .error e => .error (.inaccessible path e.message)

end FrameTree
