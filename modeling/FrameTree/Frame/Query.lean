import FrameTree.Frame

/-!
# Questions to a flat frame

Each question is answered by ids, with the key of a block, the event of an action or the name of a
trigger beside them. A question about an action that the frame does not have has no answer.
-/

namespace FrameTree.Frame

/-- A question about the entities of a frame. Actions are told apart by their index. -/
inductive Query where
  | roots
  | children (id : String)
  | actions (key : String)
  | rootTriggers (action : Nat)
  | triggers (action : Nat) (id : String)
deriving DecidableEq, Repr, Inhabited

def blockPairs (bs : List (Block String)) : List (String × String) := bs.map fun b => (b.id, b.key)

def triggerPairs (ts : List (Trigger String)) : List (String × String) :=
  ts.map fun t => (t.id, t.name)

/-- The answer to a question. -/
def ask (F : Frame String) : Query → Option (List (String × String))
  | .roots => some (blockPairs F.rootBlocks)
  | .children id => some (blockPairs (F.childrenOf id))
  | .actions key => some ((F.actionsOf key).map fun a => (a.id, a.event))
  | .rootTriggers action => F.actions[action]?.map fun a => triggerPairs a.rootTriggers
  | .triggers action id => F.actions[action]?.map fun a => triggerPairs (a.childrenOf id)

end FrameTree.Frame
