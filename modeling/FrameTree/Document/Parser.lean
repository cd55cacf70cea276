import FrameTree.Document

/-!
# Reading documents

A document is read in place: the first thing wrong with its text is the answer. Unknown members are
passed over, and almost everything may be left out; keys, key types, events and the names of slots
are required.

**Slots.** An author writes that a block has no slot by leaving the slot out, or by `null`, by the
word `null` as a string or by an empty string.

**Nesting.** A block inside another is two levels deeper in the text, its list being one of them,
and the same holds for triggers; so the recursion is on the room that is left.
-/

namespace FrameTree.Document

open Json (Node Reading Field)
open Json.Node

/-- No room for anything nested. -/
def noRoom {α : Type} : Node → Reading α := fun _ => .error (.malformed .tooDeep)

def text {ρ : Type} (name : String) (set : String → ρ → ρ) : Field Node ρ :=
  .optional name readString set

def requiredText {ρ : Type} (name : String) (set : String → ρ → ρ) : Field Node ρ :=
  .mandatory name readString set

/-- A list of records, each of them with the room that the list leaves. -/
def listOf {ρ α : Type} (name : String) (room : Nat) (item : Nat → Node → Reading α)
    (set : List α → ρ → ρ) : Field Node ρ :=
  .optional name (readList room (item (room - 1))) set

/-- The slot of a block, without the ways to write that there is none. -/
def readSlot (n : Node) : Reading (Option String) := do
  return (← n.readString?).filter fun s => !s.isEmpty && s != "null"

/-! ## Parts -/

def Variable.read (room : Nat) : Node → Reading Variable :=
  readRecord "VariableDsl" room default
    [requiredText "key" fun s v => { v with key := s },
      text "value" fun s v => { v with value := s },
      .optional "type" (readCode (room - 1)) fun k v => { v with kind := k }]

def Property.read (room : Nat) : Node → Reading Property :=
  readRecord "PropertyDsl" room default
    [requiredText "key" fun s p => { p with key := s },
      .optional "value" readString? fun s p => { p with value := s },
      text "valueMobile" fun s p => { p with mobile := s },
      text "valueTablet" fun s p => { p with tablet := s },
      text "valueDesktop" fun s p => { p with desktop := s },
      text "type" fun s p => { p with kind := s },
      text "description" fun s p => { p with description := s },
      text "valuePicker" fun s p => { p with picker := s },
      text "valuePickerGroup" fun s p => { p with pickerGroup := s },
      text "valuePickerOptions" fun s p => { p with pickerOptions := s }]

def Binding.read (room : Nat) : Node → Reading Binding :=
  readRecord "DataDsl" room default
    [requiredText "key" fun s b => { b with key := s },
      text "value" fun s b => { b with value := s },
      text "type" fun s b => { b with kind := s },
      text "description" fun s b => { b with description := s }]

def Slot.read (room : Nat) : Node → Reading Slot :=
  readRecord "SlotDsl" room default
    [requiredText "slot" fun s t => { t with name := s },
      text "description" fun s t => { t with description := s }]

def TriggerProperty.read (room : Nat) : Node → Reading TriggerProperty :=
  readRecord "TriggerPropertyDsl" room default
    [requiredText "key" fun s p => { p with key := s },
      text "value" fun s p => { p with value := s },
      text "type" fun s p => { p with kind := s },
      text "description" fun s p => { p with description := s },
      text "valuePicker" fun s p => { p with picker := s },
      text "valuePickerGroup" fun s p => { p with pickerGroup := s },
      text "valuePickerOptions" fun s p => { p with pickerOptions := s }]

/-! ## Triggers and actions -/

/-- The tree with another label. -/
def relabel {α : Type} (f : α → α) : Tree α → Tree α
  | .node a ts => .node (f a) ts

/-- The tree with other children. -/
def replant {α : Type} (ts : Forest α) : Tree α → Tree α
  | .node a _ => .node a ts

/-- The fields of a trigger, given a reader for the triggers below it. -/
def Trigger.fields (room : Nat) (below : Node → Reading (Tree Trigger)) :
    List (Field Node (Tree Trigger)) :=
  [requiredText "keyType" fun s => relabel fun t => { t with keyType := s },
    .optional "then" (readCode room) fun m => relabel fun t => { t with mode := m },
    text "name" fun s => relabel fun t => { t with name := s },
    .optional "integrationVersion" readInt32 fun i => relabel fun t => { t with version := i },
    listOf "properties" room TriggerProperty.read fun ps => relabel fun t =>
      { t with properties := ps },
    listOf "data" room Binding.read fun bs => relabel fun t => { t with data := bs },
    listOf "triggers" room (fun _ => below) replant]

/-- A trigger and the triggers below it. -/
def Trigger.read : (room : Nat) → Node → Reading (Tree Trigger)
  | room + 2 => readRecord "TriggerDsl" (room + 2) default (Trigger.fields (room + 1) (read room))
  | room => readRecord "TriggerDsl" room default (Trigger.fields (room - 1) noRoom)

def Action.read (room : Nat) : Node → Reading Action :=
  readRecord "ActionDsl" room default
    [text "key" fun s a => { a with key := s },
      requiredText "event" fun s a => { a with event := s },
      listOf "triggers" (room - 1) Trigger.read fun ts a => { a with triggers := ts }]

/-! ## Blocks and documents -/

/-- The fields of a block, given a reader for the blocks inside it. -/
def Block.fields (room : Nat) (inside : Node → Reading (Tree Block)) :
    List (Field Node (Tree Block)) :=
  [requiredText "keyType" fun s => relabel fun b => { b with keyType := s },
    requiredText "key" fun s => relabel fun b => { b with key := s },
    text "visibilityKey" fun s => relabel fun b => { b with visibilityKey := s },
    .optional "slot" readSlot fun s => relabel fun b => { b with slot := s },
    .optional "integrationVersion" readInt32 fun i => relabel fun b => { b with version := i },
    listOf "properties" room Property.read fun ps => relabel fun b => { b with properties := ps },
    listOf "data" room Binding.read fun ds => relabel fun b => { b with data := ds },
    listOf "slots" room Slot.read fun ss => relabel fun b => { b with slots := ss },
    listOf "actions" room Action.read fun as => relabel fun b => { b with actions := as },
    listOf "blocks" room (fun _ => inside) replant]

/-- A block and the blocks inside it. -/
def Block.read : (room : Nat) → Node → Reading (Tree Block)
  | room + 2 => readRecord "BlockDsl" (room + 2) default (Block.fields (room + 1) (read room))
  | room => readRecord "BlockDsl" room default (Block.fields (room - 1) noRoom)

def read (room : Nat) : Node → Reading Document :=
  readRecord "FrameDsl" room default
    [text "$schema" fun s d => { d with schema := s },
      text "name" fun s d => { d with name := s },
      text "route" fun s d => { d with route := s },
      .optional "type" (readCode (room - 1)) fun k d => { d with kind := k },
      .optional "isStarter" readBool fun b d => { d with isStarter := b },
      listOf "variables" (room - 1) Variable.read fun vs d => { d with vars := vs },
      listOf "blocks" (room - 1) Block.read fun bs d => { d with blocks := bs }]

/-- The document that a text writes. -/
def parse (text : String) : Reading Document := readText (read Json.nestingRoom) text

end FrameTree.Document
