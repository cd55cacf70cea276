import FrameTree.Document
import FrameTree.Json.Printer

/-!
# Printing documents

A document is printed with its members in the order of declaration. A slot or a common value that is
not there is left out, and so are the descriptions and pickers that are empty.
-/

namespace FrameTree.Document

/-- A member that is left out when the text is empty. -/
def nonEmpty (name text : String) : List (String × Json) :=
  if text.isEmpty then [] else [(name, .string text)]

/-- A member that is left out when there is no text. -/
def present (name : String) : Option String → List (String × Json)
  | none => []
  | some text => [(name, .string text)]

def Variable.toJson (v : Variable) : Json :=
  .object [("key", .string v.key), ("value", .string v.value), ("type", .string v.kind.code)]

def Property.toJson (p : Property) : Json :=
  .object <|
    [("key", .string p.key)] ++ present "value" p.value
      ++ [("valueMobile", .string p.mobile), ("valueTablet", .string p.tablet),
        ("valueDesktop", .string p.desktop), ("type", .string p.kind)]
      ++ nonEmpty "description" p.description ++ nonEmpty "valuePicker" p.picker
      ++ nonEmpty "valuePickerGroup" p.pickerGroup ++ nonEmpty "valuePickerOptions" p.pickerOptions

def Binding.toJson (b : Binding) : Json :=
  .object <|
    [("key", .string b.key), ("value", .string b.value), ("type", .string b.kind)]
      ++ nonEmpty "description" b.description

def Slot.toJson (s : Slot) : Json :=
  .object <| [("slot", .string s.name)] ++ nonEmpty "description" s.description

def TriggerProperty.toJson (p : TriggerProperty) : Json :=
  .object <|
    [("key", .string p.key), ("value", .string p.value), ("type", .string p.kind)]
      ++ nonEmpty "description" p.description ++ nonEmpty "valuePicker" p.picker
      ++ nonEmpty "valuePickerGroup" p.pickerGroup ++ nonEmpty "valuePickerOptions" p.pickerOptions

/-- A trigger with the triggers below it, given as values. -/
def Trigger.toJson (t : Trigger) (below : List Json) : Json :=
  .object [("keyType", .string t.keyType), ("then", .string t.mode.code), ("name", .string t.name),
    ("integrationVersion", .ofInt32 t.version),
    ("properties", .array (t.properties.map TriggerProperty.toJson)),
    ("data", .array (t.data.map Binding.toJson)), ("triggers", .array below)]

mutual

def triggerToJson : Tree Trigger → Json
  | .node t ts => t.toJson (triggersToJson ts)

def triggersToJson : List (Tree Trigger) → List Json
  | [] => []
  | t :: ts => triggerToJson t :: triggersToJson ts

end

def Action.toJson (a : Action) : Json :=
  .object [("key", .string a.key), ("event", .string a.event),
    ("triggers", .array (triggersToJson a.triggers))]

/-- A block with the blocks inside it, given as values. -/
def Block.toJson (b : Block) (inside : List Json) : Json :=
  .object <|
    [("keyType", .string b.keyType), ("key", .string b.key),
      ("visibilityKey", .string b.visibilityKey)]
      ++ present "slot" b.slot
      ++ [("integrationVersion", .ofInt32 b.version),
        ("properties", .array (b.properties.map Property.toJson)),
        ("data", .array (b.data.map Binding.toJson)), ("slots", .array (b.slots.map Slot.toJson)),
        ("actions", .array (b.actions.map Action.toJson)), ("blocks", .array inside)]

mutual

def blockToJson : Tree Block → Json
  | .node b ts => b.toJson (blocksToJson ts)

def blocksToJson : List (Tree Block) → List Json
  | [] => []
  | t :: ts => blockToJson t :: blocksToJson ts

end

/-- The document as a value, its members in the order of declaration. -/
def toJson (d : Document) : Json :=
  .object [("$schema", .string d.schema), ("name", .string d.name), ("route", .string d.route),
    ("type", .string d.kind.code), ("isStarter", .bool d.isStarter),
    ("variables", .array (d.vars.map Variable.toJson)),
    ("blocks", .array (blocksToJson d.blocks))]

/-- The text of a document. -/
def print (d : Document) : String := d.toJson.pretty

end FrameTree.Document
