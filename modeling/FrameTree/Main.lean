import FrameTree.Command

/-!
# The program

Reads the files that a command may look at, carries out the plan of the command, and prints its
report.
-/

namespace FrameTree.Main

/-- The error of a system code. -/
def ofCode (code : UInt32) (details : String) : AccessError :=
  if code = 20 then .notDirectory
  else if code = 21 then .isDirectory
  else .other s!"{details} (os error {code})"

/-- An error of the system, in the words of a view. -/
def accessError : IO.Error → AccessError
  | .noFileOrDirectory .. => .notFound
  | .inappropriateType _ code details => ofCode code details
  | .permissionDenied _ code _ => .other s!"Permission denied (os error {code})"
  | e => .other (toString e)

/-- A file as a view shows it: whether it is a regular file, and its text. -/
def look (path : String) : IO (String × Bool × Except AccessError String) := do
  try
    let bytes ← IO.FS.readBinFile path
    match String.fromUTF8? bytes with
    | some text => return (path, true, .ok text)
    | none => return (path, true, .error .notText)
  catch e => return (path, false, .error (accessError e))

/-- A view of some files. -/
def viewOf (seen : List (String × Bool × Except AccessError String)) : FileView where
  isFile path := ((seen.lookup path).map Prod.fst).getD false
  read path := ((seen.lookup path).map Prod.snd).getD (.error .notFound)

/-- A view of all files that a command may look at. A document names one of them, so looking once is
not enough. -/
def viewFor (c : Command) : IO FileView := do
  let first ← (c.paths (viewOf [])).mapM look
  let second ← (c.paths (viewOf first)).mapM look
  return viewOf second

/-- Prints the output of a report and its error, and gives its exit code. -/
def report (r : Command.Report) : IO UInt32 := do
  IO.print r.output
  if let some message := r.error then IO.eprintln s!"\nError: {message}"
  return r.code.toUInt32

/-- Carries out a plan on the files of the system. -/
def carryOut : Command.Plan → IO UInt32
  | .finish output => report ⟨0, output, none⟩
  | .fail message => report ⟨1, "", some message⟩
  | .write path text failure output => do
    try
      IO.FS.writeFile path text
      report ⟨0, output, none⟩
    catch e => report ⟨1, "", some (failure (accessError e))⟩

/-- How to call the program. -/
def usageText : String :=
  "Usage:\n"
    ++ "  gen -p PATH [--schema-file PATH] [-c PATH] [-o PATH] [--sync-payload]\n"
    ++ "  rebuild -f PATH -p PATH [-s SCHEMA] [-c PATH]"

/-- A start for random ids. -/
def randomStart : IO Nat := do
  let bytes ← IO.getRandomBytes 16
  return bytes.toList.foldl (fun n b => 256 * n + b.toNat) 0

end FrameTree.Main

open FrameTree FrameTree.Main in
def main (args : List String) : IO UInt32 := do
  match Command.usage args with
  | .help =>
    IO.println usageText
    return 0
  | .wrong =>
    IO.eprintln usageText
    return 2
  | .run c =>
    let files ← viewFor c
    carryOut (c.plan Schema.check files (Uuid.issuer (← randomStart)))
