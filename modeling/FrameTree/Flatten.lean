import FrameTree.Document.Parser
import FrameTree.Document.Printer
import FrameTree.Issuer
import FrameTree.Nesting
import FrameTree.Route
import FrameTree.Rules
import FrameTree.Settings

/-!
# From documents to flat frames

**Numbering.** Every entity of a document gets an id as the document is walked in pre-order: a
block, then its actions, each followed by its triggers in pre-order, then the parts of the block,
then the blocks inside it. A rule is checked where the walk comes to it, and its error ends the
walk. The ids issued so far stay issued.

**Verdict.** Before anything is numbered, the document is handed to a validator, which accepts it,
lists what is wrong with it, or fails. Every call of the validator is entered into the ledger with
its answer (`Flattener.consult`), and the verdict is the answer of that entry.

**The whole** (`Flattener.flatten`). The order of the checks is: the schema reference, the nesting,
the verdict, the first root block, the walk, the keys.
-/

namespace FrameTree

variable {ι : Type}

/-! ## Numbering -/

/-- A part of the walk. Its state is the number of ids issued, which outlives an error. -/
abbrev Numbering := EStateM Error Nat

namespace Numbering

/-- The next id. -/
def issue (I : Issuer ι) : Numbering ι := modifyGet fun n => (I.id n, n + 1)

/-- Parts in order, each with the next id. -/
def issueEach {α β : Type} (I : Issuer ι) (flat : ι → α → β) (parts : List α) :
    Numbering (List β) :=
  parts.mapM fun part => return flat (← issue I) part

/-- A rule that has to hold here. -/
def check (rule : Except Error Unit) : Numbering Unit :=
  match rule with
  | .ok () => pure ()
  | .error e => throw e

end Numbering

open FrameTree.Numbering

namespace Document

/-- The key and the value of a data entry. -/
def Binding.entry (b : Binding) : String × String := (b.key, b.value)

/-! ### Parts, given their ids -/

def Variable.flat (frameId id : ι) (v : Variable) : Frame.Variable ι :=
  { id, frameId, key := v.key, value := v.value, kind := v.kind }

def TriggerProperty.flat (triggerId id : ι) (p : TriggerProperty) : Frame.TriggerProperty ι :=
  { id
    triggerId
    key := p.key
    value := p.value
    kind := p.kind
    description := p.description
    picker := p.picker
    pickerGroup := p.pickerGroup
    pickerOptions := p.pickerOptions
    deprecated := false
    deprecatedReason := "" }

def Binding.flatInTrigger (triggerId id : ι) (b : Binding) : Frame.TriggerData ι :=
  { id
    triggerId
    key := b.key
    value := b.value
    kind := b.kind
    description := b.description
    deprecated := false
    deprecatedReason := "" }

def Property.flat (blockId id : ι) (p : Property) : Frame.Property ι :=
  let (mobile, tablet, desktop) := p.breakpoints
  { id
    blockId
    key := p.key
    mobile
    tablet
    desktop
    kind := p.kind
    description := p.description
    picker := p.picker
    pickerGroup := p.pickerGroup
    pickerOptions := p.pickerOptions
    deprecated := false
    deprecatedReason := "" }

def Binding.flatInBlock (blockId id : ι) (b : Binding) : Frame.BlockData ι :=
  { id
    blockId
    key := b.key
    value := b.value
    kind := b.kind
    description := b.description
    deprecated := false
    deprecatedReason := "" }

def Slot.flat (blockId id : ι) (s : Slot) : Frame.Slot ι :=
  { id
    blockId
    name := s.name
    description := s.description
    deprecated := false
    deprecatedReason := "" }

/-! ### Triggers and actions -/

def Trigger.flat (id actionId parentId : ι) (properties : List (Frame.TriggerProperty ι))
    (data : List (Frame.TriggerData ι)) (t : Trigger) : Frame.Trigger ι :=
  { id
    actionId
    parentId
    keyType := t.keyType
    mode := t.mode
    name := t.name
    version := t.version
    properties
    data
    deprecated := false
    deprecatedReason := "" }

/-- A trigger with its parts. `below` is the number of triggers right below it. -/
def Trigger.number (I : Issuer ι) (vars : List String) (actionId : ι)
    (parent : Option (Frame.Trigger ι)) (_place : Nat) (t : Trigger) (below : Nat) :
    Numbering (Frame.Trigger ι) := do
  let id ← issue I
  check (Rules.checkChain t.mode below t.name)
  let properties ← issueEach I (TriggerProperty.flat id) t.properties
  let data ← issueEach I (Binding.flatInTrigger id) t.data
  check (Rules.checkBindings vars (.trigger t.name) (t.data.map Binding.entry))
  return t.flat id actionId ((parent.map (·.id)).getD I.absent) properties data

/-- An action of the block with `key`, and its triggers in pre-order. -/
def Action.number (I : Issuer ι) (vars : List String) (frameId : ι) (key : String)
    (a : Action) : Numbering (Frame.Action ι) := do
  let id ← issue I
  let triggers ← Tree.enterAll (Trigger.number I vars id) none 0 a.triggers
  return { id, frameId, key, event := a.event, triggers }

/-! ### Blocks -/

def Block.flat (id frameId parentId : ι) (position : Nat) (slot : String)
    (properties : List (Frame.Property ι)) (data : List (Frame.BlockData ι))
    (slots : List (Frame.Slot ι)) (b : Block) : Frame.Block ι :=
  { id
    frameId
    keyType := b.keyType
    key := b.key
    visibilityKey := b.visibilityKey
    position
    slot
    version := b.version
    parentId
    data
    properties
    slots
    deprecated := false
    deprecatedReason := "" }

/-- The slots that a parent declares. -/
def declaredSlots (parent : Option (Frame.Block ι)) : List String :=
  match parent with
  | none => []
  | some b => b.slots.map (·.name)

/-- A block with its parts, together with its actions. -/
def Block.number (I : Issuer ι) (settings : Settings) (vars : List String) (frameId : ι)
    (parent : Option (Frame.Block ι × List (Frame.Action ι))) (place : Nat) (b : Block)
    (_inside : Nat) : Numbering (Frame.Block ι × List (Frame.Action ι)) := do
  let parent := parent.map Prod.fst
  let id ← issue I
  let slot := b.slotOr settings.defaultSlot
  check (Rules.checkSlot (declaredSlots parent) slot b.key)
  let actions ← b.actions.mapM (·.number I vars frameId b.key)
  let properties ← issueEach I (Property.flat id) b.properties
  let data ← issueEach I (Binding.flatInBlock id) b.data
  let slots ← issueEach I (Slot.flat id) b.slots
  check (Rules.checkBindings vars (.block b.key) (b.data.map Binding.entry))
  let parentId := (parent.map (·.id)).getD I.absent
  return (b.flat id frameId parentId place slot properties data slots, actions)

/-- The first root block is of the reserved key type, if that is enforced. -/
def checkRoot (settings : Settings) (d : Document) : Except Error Unit :=
  match d.blocks with
  | [] => .ok ()
  | .node b _ :: _ =>
    if settings.enforceRootKeyType && b.keyType != settings.rootKeyType then
      .error (.invalidRoot b.keyType settings.rootKeyType)
    else .ok ()

/-- The frame of a document whose schema and nesting are in order. -/
def number (I : Issuer ι) (settings : Settings) (d : Document) : Numbering (Frame ι) := do
  check (d.checkRoot settings)
  let id ← issue I
  let vars ← issueEach I (Variable.flat id) d.vars
  let walked ← Tree.enterAll (Block.number I settings (d.vars.map (·.key)) id) none 0 d.blocks
  let blocks := walked.map Prod.fst
  check (Rules.checkKeys (blocks.map (·.key)))
  return {
    id
    name := d.name
    route := d.route
    routeArguments := distinct (Route.arguments d.route)
    kind := d.kind
    isStarter := d.isStarter
    projectId := settings.projectId
    checksum := ""
    vars
    blocks
    actions := walked.flatMap Prod.snd }

end Document

/-! ## Verdicts -/

/-- What a validator says about a document. -/
inductive Verdict where
  | valid
  | invalid (violations : List String)
deriving DecidableEq, Repr, Inhabited

/-- Judges a document by the schema that a reference names. -/
abbrev Validator := (document : Json) → (reference : String) → Except Error Verdict

/-- Accepts every document. -/
def Validator.acceptAll : Validator := fun _ _ => .ok .valid

/-! ## Flattening -/

/-- A call of a validator. -/
structure Consultation where
  document : Json
  reference : String
  answer : Except Error Verdict

/-- What has been used up by flattening: ids, and calls of the validator. -/
structure Ledger where
  /-- The number of ids issued. -/
  issued : Nat
  /-- The calls of the validator, the last one first. -/
  calls : List Consultation
deriving Inhabited

namespace Ledger

/-- The ledger before anything has been done. -/
def empty : Ledger := ⟨0, []⟩

/-- How often the validator was called. -/
def consulted (l : Ledger) : Nat := l.calls.length

/-- The document that the validator was handed last. -/
def lastDocument (l : Ledger) : Option Json := l.calls.head?.map (·.document)

end Ledger

/-- A part of flattening. The ledger outlives an error. -/
abbrev Flattening := EStateM Error Ledger

/-- Numbering that is entered into the ledger. -/
def Numbering.enter {α : Type} (x : Numbering α) : Flattening α := fun ledger =>
  match x ledger.issued with
  | .ok a issued => .ok a { ledger with issued }
  | .error e issued => .error e { ledger with issued }

/-- What flattening gives when nothing is in error: a frame, or what is wrong with the document. -/
inductive Outcome (ι : Type) where
  | flattened (frame : Frame ι)
  | rejected (violations : List String)
deriving Inhabited

/-- Everything that flattening depends on besides the document. -/
structure Flattener (ι : Type) where
  settings : Settings
  validator : Validator
  issuer : Issuer ι

namespace Flattener

/-- The value of a document that a validator judges. -/
def submitted (d : Document) : Json := d.toJson.canonical

/-- Calls the validator and enters the call. -/
def consult (f : Flattener ι) (document : Json) (reference : String) : Flattening Consultation := do
  let call : Consultation := ⟨document, reference, f.validator document reference⟩
  modify fun ledger => { ledger with calls := call :: ledger.calls }
  return call

/-- The verdict on a document is what the validator answers. -/
def judge (f : Flattener ι) (d : Document) : Flattening Verdict := do
  let call ← f.consult (submitted d) d.schema
  match call.answer with
  | .ok verdict => return verdict
  | .error e => throw e

/-- Flattens a document, or ends with the first error. -/
def flatten (f : Flattener ι) (d : Document) : Flattening (Outcome ι) := do
  if d.schema.isEmpty then throw .missingSchema
  (check (Nesting.check f.settings.maxDepth d.blocks)).enter
  match ← f.judge d with
  | .invalid violations => return .rejected violations
  | .valid => return .flattened (← (d.number f.issuer f.settings).enter)

/-- Flattens the document that a text writes. -/
def flattenText (f : Flattener ι) (text : String) : Flattening (Outcome ι) :=
  match Document.parse text with
  | .ok d => f.flatten d
  | .error reason => throw (.unreadable reason)

end Flattener

end FrameTree
