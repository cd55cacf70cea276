import FrameTree.Frame.Printer

/-!
# Reading flat frames

The text of a frame is parsed as a whole, and the frame is read from the value. Everything may be
left out but the name of a route argument.

**Shapes.** The value is a generated frame if it has a member `frameProduction` in a member `data`,
otherwise a fetched one if it has a member `frame`, and otherwise the frame itself. What stands
beside the frame is passed over.
-/

namespace FrameTree

namespace Frame

open Json (Reading Field)

def text {ρ : Type} (name : String) (set : String → ρ → ρ) : Field Json ρ :=
  .optional name Json.readString set

def flag {ρ : Type} (name : String) (set : Bool → ρ → ρ) : Field Json ρ :=
  .optional name Json.readBool set

def listOf {ρ α : Type} (name : String) (item : Json → Reading α) (set : List α → ρ → ρ) :
    Field Json ρ :=
  .optional name (Json.readList item) set

def code {ρ α : Type} [Json.Coded α] (name : String) (set : α → ρ → ρ) : Field Json ρ :=
  .optional name Json.readCode set

def int32 {ρ : Type} (name : String) (set : Int32 → ρ → ρ) : Field Json ρ :=
  .optional name Json.readInt32 set

/-! ## Parts -/

def readRouteArgument : Json → Reading String :=
  Json.readRecord "RouteArgument" "" [.mandatory "name" Json.readString fun s _ => s]

def Variable.read : Json → Reading (Variable String) :=
  Json.readRecord "Variable" default
    [text "id" fun s v => { v with id := s },
      text "frameId" fun s v => { v with frameId := s },
      text "key" fun s v => { v with key := s },
      text "value" fun s v => { v with value := s },
      code "type" fun k v => { v with kind := k }]

def Property.read : Json → Reading (Property String) :=
  Json.readRecord "BlockProperty" default
    [text "id" fun s p => { p with id := s },
      text "blockId" fun s p => { p with blockId := s },
      text "key" fun s p => { p with key := s },
      text "valueMobile" fun s p => { p with mobile := s },
      text "valueTablet" fun s p => { p with tablet := s },
      text "valueDesktop" fun s p => { p with desktop := s },
      text "type" fun s p => { p with kind := s },
      text "description" fun s p => { p with description := s },
      text "valuePicker" fun s p => { p with picker := s },
      text "valuePickerGroup" fun s p => { p with pickerGroup := s },
      text "valuePickerOptions" fun s p => { p with pickerOptions := s },
      flag "deprecated" fun b p => { p with deprecated := b },
      text "deprecatedReason" fun s p => { p with deprecatedReason := s }]

def BlockData.read : Json → Reading (BlockData String) :=
  Json.readRecord "BlockData" default
    [text "id" fun s d => { d with id := s },
      text "blockId" fun s d => { d with blockId := s },
      text "key" fun s d => { d with key := s },
      text "value" fun s d => { d with value := s },
      text "type" fun s d => { d with kind := s },
      text "description" fun s d => { d with description := s },
      flag "deprecated" fun b d => { d with deprecated := b },
      text "deprecatedReason" fun s d => { d with deprecatedReason := s }]

def Slot.read : Json → Reading (Slot String) :=
  Json.readRecord "BlockSlot" default
    [text "id" fun s t => { t with id := s },
      text "blockId" fun s t => { t with blockId := s },
      text "slot" fun s t => { t with name := s },
      text "description" fun s t => { t with description := s },
      flag "deprecated" fun b t => { t with deprecated := b },
      text "deprecatedReason" fun s t => { t with deprecatedReason := s }]

def Block.read : Json → Reading (Block String) :=
  Json.readRecord "Block" default
    [text "id" fun s b => { b with id := s },
      text "frameId" fun s b => { b with frameId := s },
      text "keyType" fun s b => { b with keyType := s },
      text "key" fun s b => { b with key := s },
      text "visibilityKey" fun s b => { b with visibilityKey := s },
      .optional "position" Json.readIndex fun n b => { b with position := n },
      text "slot" fun s b => { b with slot := s },
      int32 "integrationVersion" fun i b => { b with version := i },
      text "parentId" fun s b => { b with parentId := s },
      listOf "data" BlockData.read fun ds b => { b with data := ds },
      listOf "properties" Property.read fun ps b => { b with properties := ps },
      listOf "slots" Slot.read fun ss b => { b with slots := ss },
      flag "integrationDeprecated" fun d b => { b with deprecated := d },
      text "integrationDeprecatedReason" fun s b => { b with deprecatedReason := s }]

def TriggerProperty.read : Json → Reading (TriggerProperty String) :=
  Json.readRecord "TriggerProperty" default
    [text "id" fun s p => { p with id := s },
      text "actionTriggerId" fun s p => { p with triggerId := s },
      text "key" fun s p => { p with key := s },
      text "value" fun s p => { p with value := s },
      text "type" fun s p => { p with kind := s },
      text "description" fun s p => { p with description := s },
      text "valuePicker" fun s p => { p with picker := s },
      text "valuePickerGroup" fun s p => { p with pickerGroup := s },
      text "valuePickerOptions" fun s p => { p with pickerOptions := s },
      flag "deprecated" fun b p => { p with deprecated := b },
      text "deprecatedReason" fun s p => { p with deprecatedReason := s }]

def TriggerData.read : Json → Reading (TriggerData String) :=
  Json.readRecord "TriggerData" default
    [text "id" fun s d => { d with id := s },
      text "actionTriggerId" fun s d => { d with triggerId := s },
      text "key" fun s d => { d with key := s },
      text "value" fun s d => { d with value := s },
      text "type" fun s d => { d with kind := s },
      text "description" fun s d => { d with description := s },
      flag "deprecated" fun b d => { d with deprecated := b },
      text "deprecatedReason" fun s d => { d with deprecatedReason := s }]

def Trigger.read : Json → Reading (Trigger String) :=
  Json.readRecord "ActionTrigger" default
    [text "id" fun s t => { t with id := s },
      text "actionId" fun s t => { t with actionId := s },
      text "parentId" fun s t => { t with parentId := s },
      text "keyType" fun s t => { t with keyType := s },
      code "then" fun m t => { t with mode := m },
      text "name" fun s t => { t with name := s },
      int32 "integrationVersion" fun i t => { t with version := i },
      listOf "properties" TriggerProperty.read fun ps t => { t with properties := ps },
      listOf "data" TriggerData.read fun ds t => { t with data := ds },
      flag "integrationDeprecated" fun d t => { t with deprecated := d },
      text "integrationDeprecatedReason" fun s t => { t with deprecatedReason := s }]

def Action.read : Json → Reading (Action String) :=
  Json.readRecord "Action" default
    [text "id" fun s a => { a with id := s },
      text "frameId" fun s a => { a with frameId := s },
      text "key" fun s a => { a with key := s },
      text "event" fun s a => { a with event := s },
      listOf "triggers" Trigger.read fun ts a => { a with triggers := ts }]

def read : Json → Reading (Frame String) :=
  Json.readRecord "Frame" default
    [text "id" fun s F => { F with id := s },
      text "name" fun s F => { F with name := s },
      text "route" fun s F => { F with route := s },
      listOf "routeArguments" readRouteArgument fun as F => { F with routeArguments := as },
      code "type" fun k F => { F with kind := k },
      flag "isStarter" fun b F => { F with isStarter := b },
      text "projectId" fun s F => { F with projectId := s },
      text "checksum" fun s F => { F with checksum := s },
      listOf "variables" Variable.read fun vs F => { F with vars := vs },
      listOf "blocks" Block.read fun bs F => { F with blocks := bs },
      listOf "actions" Action.read fun as F => { F with actions := as }]

/-! ## Shapes -/

/-- The frame inside a value of any shape. -/
def inside (j : Json) : Json :=
  match j.pointer? ["data", "frameProduction"] with
  | some frame => frame
  | none => (j.get? "frame").getD j

/-- The frame that a text writes in any shape. -/
def parse (text : String) : Reading (Frame String) := do read (inside (← Json.parse text))

end Frame

namespace SyncInput

open Json.Node in
def read (room : Nat) : Json.Node → Json.Reading SyncInput :=
  readRecord "SyncFrameInput" room default
    [.mandatory "route" readString fun s i => { i with route := s },
      .mandatory "frameJson" readString fun s i => { i with frame := s }]

/-- The input that a text writes. -/
def parse (text : String) : Json.Reading SyncInput :=
  Json.Node.readText (read Json.nestingRoom) text

end SyncInput

end FrameTree
