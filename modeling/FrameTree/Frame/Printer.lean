import FrameTree.Frame
import FrameTree.Json.Printer

/-!
# Printing flat frames

A frame is printed with all of its members, in the order of declaration.

**Shapes.** A generated frame travels as `data.frameProduction`, a fetched one as `frame`, and the
input of a synchronisation carries the route and the compact text of the frame as a string.
-/

namespace FrameTree

namespace Frame

def Variable.toJson (v : Variable String) : Json :=
  .object [("id", .string v.id), ("frameId", .string v.frameId), ("key", .string v.key),
    ("value", .string v.value), ("type", .string v.kind.code)]

def Property.toJson (p : Property String) : Json :=
  .object [("id", .string p.id), ("blockId", .string p.blockId), ("key", .string p.key),
    ("valueMobile", .string p.mobile), ("valueTablet", .string p.tablet),
    ("valueDesktop", .string p.desktop), ("type", .string p.kind),
    ("description", .string p.description), ("valuePicker", .string p.picker),
    ("valuePickerGroup", .string p.pickerGroup), ("valuePickerOptions", .string p.pickerOptions),
    ("deprecated", .bool p.deprecated), ("deprecatedReason", .string p.deprecatedReason)]

def BlockData.toJson (d : BlockData String) : Json :=
  .object [("id", .string d.id), ("blockId", .string d.blockId), ("key", .string d.key),
    ("value", .string d.value), ("type", .string d.kind), ("description", .string d.description),
    ("deprecated", .bool d.deprecated), ("deprecatedReason", .string d.deprecatedReason)]

def Slot.toJson (s : Slot String) : Json :=
  .object [("id", .string s.id), ("blockId", .string s.blockId), ("slot", .string s.name),
    ("description", .string s.description), ("deprecated", .bool s.deprecated),
    ("deprecatedReason", .string s.deprecatedReason)]

def Block.toJson (b : Block String) : Json :=
  .object [("id", .string b.id), ("frameId", .string b.frameId), ("keyType", .string b.keyType),
    ("key", .string b.key), ("visibilityKey", .string b.visibilityKey),
    ("position", .ofNat b.position), ("slot", .string b.slot),
    ("integrationVersion", .ofInt32 b.version), ("parentId", .string b.parentId),
    ("data", .array (b.data.map BlockData.toJson)),
    ("properties", .array (b.properties.map Property.toJson)),
    ("slots", .array (b.slots.map Slot.toJson)), ("integrationDeprecated", .bool b.deprecated),
    ("integrationDeprecatedReason", .string b.deprecatedReason)]

def TriggerProperty.toJson (p : TriggerProperty String) : Json :=
  .object [("id", .string p.id), ("actionTriggerId", .string p.triggerId), ("key", .string p.key),
    ("value", .string p.value), ("type", .string p.kind), ("description", .string p.description),
    ("valuePicker", .string p.picker), ("valuePickerGroup", .string p.pickerGroup),
    ("valuePickerOptions", .string p.pickerOptions), ("deprecated", .bool p.deprecated),
    ("deprecatedReason", .string p.deprecatedReason)]

def TriggerData.toJson (d : TriggerData String) : Json :=
  .object [("id", .string d.id), ("actionTriggerId", .string d.triggerId), ("key", .string d.key),
    ("value", .string d.value), ("type", .string d.kind), ("description", .string d.description),
    ("deprecated", .bool d.deprecated), ("deprecatedReason", .string d.deprecatedReason)]

def Trigger.toJson (t : Trigger String) : Json :=
  .object [("id", .string t.id), ("actionId", .string t.actionId), ("parentId", .string t.parentId),
    ("keyType", .string t.keyType), ("then", .string t.mode.code), ("name", .string t.name),
    ("integrationVersion", .ofInt32 t.version),
    ("properties", .array (t.properties.map TriggerProperty.toJson)),
    ("data", .array (t.data.map TriggerData.toJson)), ("integrationDeprecated", .bool t.deprecated),
    ("integrationDeprecatedReason", .string t.deprecatedReason)]

def Action.toJson (a : Action String) : Json :=
  .object [("id", .string a.id), ("frameId", .string a.frameId), ("key", .string a.key),
    ("event", .string a.event), ("triggers", .array (a.triggers.map Trigger.toJson))]

/-- The frame as a value, its members in the order of declaration. -/
def toJson (F : Frame String) : Json :=
  .object [("id", .string F.id), ("name", .string F.name), ("route", .string F.route),
    ("routeArguments", .array (F.routeArguments.map fun name => .object [("name", .string name)])),
    ("type", .string F.kind.code), ("isStarter", .bool F.isStarter),
    ("projectId", .string F.projectId), ("checksum", .string F.checksum),
    ("variables", .array (F.vars.map Variable.toJson)),
    ("blocks", .array (F.blocks.map Block.toJson)),
    ("actions", .array (F.actions.map Action.toJson))]

/-! ## Shapes -/

/-- The compact text of a frame. -/
def print (F : Frame String) : String := F.toJson.compact

/-- The shape of a generated frame. -/
def toProduction (F : Frame String) : Json :=
  .object [("data", .object [("frameProduction", F.toJson)])]

/-- The shape of a fetched frame. -/
def toFetched (F : Frame String) : Json := .object [("frame", F.toJson)]

end Frame

/-- The input of a synchronisation. -/
structure SyncInput where
  route : String
  /-- The compact text of a frame. -/
  frame : String
deriving DecidableEq, Repr, Inhabited

namespace SyncInput

def ofFrame (F : Frame String) : SyncInput := ⟨F.route, F.print⟩

def toJson (s : SyncInput) : Json :=
  .object [("route", .string s.route), ("frameJson", .string s.frame)]

end SyncInput

end FrameTree
