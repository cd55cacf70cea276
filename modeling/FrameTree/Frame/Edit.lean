import FrameTree.Frame

/-!
# Changing a flat frame

Changes to single entities, which are told apart by their index in the lists of the frame. A change
to an entity that is not there is refused. Nothing keeps the links of the frame in order: what comes
out may be any frame.
-/

namespace FrameTree.Frame

/-- The fields of a block to set. -/
structure BlockEdit where
  id : Option String
  parentId : Option String
  key : Option String
  slot : Option String
  position : Option Nat
deriving DecidableEq, Repr, Inhabited

def BlockEdit.apply (e : BlockEdit) (b : Block String) : Block String :=
  { b with
    id := e.id.getD b.id
    parentId := e.parentId.getD b.parentId
    key := e.key.getD b.key
    slot := e.slot.getD b.slot
    position := e.position.getD b.position }

/-- The fields of a trigger to set. -/
structure TriggerEdit where
  id : Option String
  parentId : Option String
deriving DecidableEq, Repr, Inhabited

def TriggerEdit.apply (e : TriggerEdit) (t : Trigger String) : Trigger String :=
  { t with id := e.id.getD t.id, parentId := e.parentId.getD t.parentId }

/-- A list with one of its members changed. -/
def modifyAt {α : Type} (f : α → α) (i : Nat) (xs : List α) : Option (List α) :=
  if i < xs.length then some (xs.modify i f) else none

/-- A change to the lists of a frame. -/
inductive Edit where
  | reverseBlocks
  | reverseActions
  | reverseTriggers (action : Nat)
  | editBlock (block : Nat) (edit : BlockEdit)
  | removeBlock (block : Nat)
  /-- Appends a copy of a block. -/
  | copyBlock (block : Nat)
  | editTrigger (action trigger : Nat) (edit : TriggerEdit)
  | editAction (action : Nat) (key : String)
deriving DecidableEq, Repr, Inhabited

/-- The frame after a change. -/
def change (F : Frame String) : Edit → Option (Frame String)
  | .reverseBlocks => some { F with blocks := F.blocks.reverse }
  | .reverseActions => some { F with actions := F.actions.reverse }
  | .reverseTriggers action => do
    let actions ← modifyAt (fun a => { a with triggers := a.triggers.reverse }) action F.actions
    return { F with actions }
  | .editBlock block edit => do return { F with blocks := ← modifyAt edit.apply block F.blocks }
  | .removeBlock block =>
    if block < F.blocks.length then some { F with blocks := F.blocks.eraseIdx block } else none
  | .copyBlock block => do
    let b ← F.blocks[block]?
    return { F with blocks := F.blocks ++ [b] }
  | .editTrigger action trigger edit => do
    let a ← F.actions[action]?
    let triggers ← modifyAt edit.apply trigger a.triggers
    let actions ← modifyAt (fun a => { a with triggers }) action F.actions
    return { F with actions }
  | .editAction action key => do
    return { F with actions := ← modifyAt (fun a => { a with key }) action F.actions }

end FrameTree.Frame
