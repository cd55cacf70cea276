import FrameTree.Json.Reader

/-!
# Settings

The choices shared by flattening and rebuilding. A settings file only names what it changes.
-/

namespace FrameTree

structure Settings where
  /-- The slot of a block that names none. -/
  defaultSlot : String
  /-- The key type reserved for the first root block. -/
  rootKeyType : String
  enforceRootKeyType : Bool
  /-- How deep blocks may nest in blocks, and triggers in triggers. -/
  maxDepth : Nat
  projectId : String
deriving DecidableEq, Repr

namespace Settings

def standard : Settings :=
  { defaultSlot := "content"
    rootKeyType := "ROOT"
    enforceRootKeyType := true
    maxDepth := 256
    projectId := "" }

instance : Inhabited Settings := ⟨standard⟩

open Json.Node in
/-- Settings are read in place; what is left out is standard. -/
def read (room : Nat) : Json.Node → Json.Reading Settings :=
  readRecord "TransformConfig" room standard
    [.optional "defaultSlot" readString fun x s => { s with defaultSlot := x },
      .optional "rootKeyType" readString fun x s => { s with rootKeyType := x },
      .optional "enforceRootKeyType" readBool fun x s => { s with enforceRootKeyType := x },
      .optional "maxDepth" readIndex fun x s => { s with maxDepth := x },
      .optional "projectId" readString fun x s => { s with projectId := x }]

/-- The settings that a text writes. -/
def parse (text : String) : Json.Reading Settings :=
  Json.Node.readText (read Json.nestingRoom) text

end Settings

end FrameTree
