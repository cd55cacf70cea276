import FrameTree.Frame.Parser
import FrameTree.Proofs.Values

/-!
# Frames in other words

A frame is printed with all of its members, and it can be read from much less: everything has a
default but the name of a route argument, the members come in any order, and members that no record
has are passed over. `Frame.format` is the list of these defaults.

For each kind of record, `worded` says that the value it is printed as is one of its variants, and
that all variants write the record; `gives` says that whatever writes the record is read as it.
Nothing is nested but the parts of one entity, so no tree is gone through.

Main results: `Frame.worded` and `Frame.gives`.
-/

namespace FrameTree

namespace Frame

open Json (Cell Field Format Gives gives_list gives_int32 gives_index gives_record)
open Json.Cell (Printed)
open FrameTree.Document (textCell requiredCell codeCell versionCell flagCell listCell recordsCell
  printed_text printed_code printed_version printed_flag printed_required printed_list
  printed_records)

variable {α ρ : Type}

/-! ## What may be left out and added -/

/-- The kinds of records in a frame. -/
inductive Part where
  | frame
  | routeArgument
  | variable
  | block
  | property
  | data
  | slot
  | action
  | trigger
  | triggerProperty
  | triggerData
deriving DecidableEq, Repr

/-- The members that have a default, and what it is. -/
def Part.defaults : Part → List (String × Json)
  | .frame =>
    [("id", .string ""), ("name", .string ""), ("route", .string ""), ("routeArguments", .array []),
      ("type", .string "FRAME"), ("isStarter", .bool false), ("projectId", .string ""),
      ("checksum", .string ""), ("variables", .array []), ("blocks", .array []),
      ("actions", .array [])]
  | .routeArgument => []
  | .variable =>
    [("id", .string ""), ("frameId", .string ""), ("key", .string ""), ("value", .string ""),
      ("type", .string "STRING")]
  | .block =>
    [("id", .string ""), ("frameId", .string ""), ("keyType", .string ""), ("key", .string ""),
      ("visibilityKey", .string ""), ("position", .ofNat 0), ("slot", .string ""),
      ("integrationVersion", .ofInt32 0), ("parentId", .string ""), ("data", .array []),
      ("properties", .array []), ("slots", .array []), ("integrationDeprecated", .bool false),
      ("integrationDeprecatedReason", .string "")]
  | .property =>
    [("id", .string ""), ("blockId", .string ""), ("key", .string ""), ("valueMobile", .string ""),
      ("valueTablet", .string ""), ("valueDesktop", .string ""), ("type", .string ""),
      ("description", .string ""), ("valuePicker", .string ""), ("valuePickerGroup", .string ""),
      ("valuePickerOptions", .string ""), ("deprecated", .bool false),
      ("deprecatedReason", .string "")]
  | .data =>
    [("id", .string ""), ("blockId", .string ""), ("key", .string ""), ("value", .string ""),
      ("type", .string ""), ("description", .string ""), ("deprecated", .bool false),
      ("deprecatedReason", .string "")]
  | .slot =>
    [("id", .string ""), ("blockId", .string ""), ("slot", .string ""), ("description", .string ""),
      ("deprecated", .bool false), ("deprecatedReason", .string "")]
  | .action =>
    [("id", .string ""), ("frameId", .string ""), ("key", .string ""), ("event", .string ""),
      ("triggers", .array [])]
  | .trigger =>
    [("id", .string ""), ("actionId", .string ""), ("parentId", .string ""),
      ("keyType", .string ""), ("then", .string "NEXT"), ("name", .string ""),
      ("integrationVersion", .ofInt32 0), ("properties", .array []), ("data", .array []),
      ("integrationDeprecated", .bool false), ("integrationDeprecatedReason", .string "")]
  | .triggerProperty =>
    [("id", .string ""), ("actionTriggerId", .string ""), ("key", .string ""),
      ("value", .string ""), ("type", .string ""), ("description", .string ""),
      ("valuePicker", .string ""), ("valuePickerGroup", .string ""),
      ("valuePickerOptions", .string ""), ("deprecated", .bool false),
      ("deprecatedReason", .string "")]
  | .triggerData =>
    [("id", .string ""), ("actionTriggerId", .string ""), ("key", .string ""),
      ("value", .string ""), ("type", .string ""), ("description", .string ""),
      ("deprecated", .bool false), ("deprecatedReason", .string "")]

/-- The members that are lists of records. -/
def Part.lists : Part → List (String × Part)
  | .frame =>
    [("routeArguments", .routeArgument), ("variables", .variable), ("blocks", .block),
      ("actions", .action)]
  | .block => [("data", .data), ("properties", .property), ("slots", .slot)]
  | .action => [("triggers", .trigger)]
  | .trigger => [("properties", .triggerProperty), ("data", .triggerData)]
  | _ => []

/-- The names of all members. -/
def Part.members : Part → List String
  | .routeArgument => ["name"]
  | k => k.defaults.map Prod.fst

/-- How a frame is written by someone else. Members of other names may be added, but for the names
that tell the shapes of a frame apart. -/
def format : Format Part where
  defaults := Part.defaults
  lists := Part.lists
  Foreign k name := name ∉ k.members ∧ (k = .frame → name ≠ "frame" ∧ name ≠ "data")

/-! ## Members -/

/-- A natural of 64 bits. -/
def indexCell (name : String) (n : Nat) (set : Nat → ρ → ρ) : Cell ρ :=
  ⟨name, false, fun j => j = .ofNat n ∧ n < Json.powerOfTwo 64, set n⟩

section

variable {name : String} {set : α → ρ → ρ}

theorem text_gives {s : String} {set : String → ρ → ρ} :
    Field.Gives (text name set) (textCell name s set) := by
  refine .optional ?_
  rintro _ rfl
  rfl

theorem flag_gives {b : Bool} {set : Bool → ρ → ρ} :
    Field.Gives (flag name set) (flagCell name b set) := by
  refine .optional ?_
  rintro _ rfl
  rfl

theorem code_gives [Json.Coded α] {a : α} (h : Json.ofCode (Json.Coded.code a) = .ok a) :
    Field.Gives (code name set) (codeCell name a set) := by
  refine .optional ?_
  rintro _ rfl
  exact h

theorem int32_gives {i : Int32} {set : Int32 → ρ → ρ} :
    Field.Gives (int32 "integrationVersion" set) (versionCell i set) := by
  refine .optional ?_
  rintro _ rfl
  exact gives_int32 i

theorem index_gives {n : Nat} {set : Nat → ρ → ρ} :
    Field.Gives (.optional name Json.readIndex set) (indexCell name n set) := by
  refine .optional ?_
  rintro _ ⟨rfl, hn⟩
  exact gives_index hn

theorem records_gives {item : Json → Json.Reading α} {Renders : α → Json → Prop}
    (h : ∀ {x j}, Renders x j → Gives item j x) {xs : List α} {set : List α → ρ → ρ} :
    Field.Gives (listOf name item set) (recordsCell name Renders xs set) := by
  refine .optional ?_
  rintro _ ⟨js, rfl, hjs⟩
  exact gives_list (hjs.imp fun _ _ hj => h hj)

variable {k : Part} {blank : ρ} {cells : List (Cell ρ)} {ms : List (String × Json)}

theorem printed_index {n : Nat} {set : Nat → ρ → ρ} (hn : n < Json.powerOfTwo 64)
    (hplain : (format.lists k).lookup name = none)
    (hdefault : (format.defaults k).lookup name = some (.ofNat 0)) (hput : set 0 blank = blank)
    (h : Printed format k blank cells ms) :
    Printed format k blank (indexCell name n set :: cells) ((name, .ofNat n) :: ms) := by
  refine .plain hplain ⟨rfl, hn⟩ hdefault (fun hzero => ?_) h
  obtain rfl := Int.ofNat.inj (Json.Number.int.inj (Json.number.inj hzero))
  exact ⟨rfl, hput⟩

/-- Members of other names may be added to a printed record. -/
theorem worded_of_printed (h : Printed format k blank cells ms)
    (hnodup : (cells.map Cell.name).Nodup) (hnames : cells.map Cell.name = k.members) :
    format.Worded k (.object ms) (Cell.RendersAmong cells blank) :=
  h.worded hnodup fun _ hname => hnames ▸ hname.1

end

section

variable {j : Json}

/-! ## Route arguments and variables -/

def routeArgumentCells (s : String) : List (Cell String) := [requiredCell "name" s fun s _ => s]

def routeArgumentRenders (s : String) : Json → Prop := Cell.RendersAmong (routeArgumentCells s) ""

theorem routeArgument_complete (s : String) : Cell.Complete (routeArgumentCells s) "" s where
  nodup := by simp [routeArgumentCells]
  commute := by simp [routeArgumentCells]
  whole := rfl

theorem routeArgument_worded (s : String) :
    format.Worded .routeArgument (.object [("name", .string s)]) (routeArgumentRenders s) :=
  worded_of_printed (printed_required rfl rfl .nil) (routeArgument_complete s).nodup rfl

theorem routeArgument_gives {s : String} (h : routeArgumentRenders s j) :
    Gives readRouteArgument j s := by
  have hname : Field.Gives (.mandatory "name" Json.readString fun s _ => s)
      (requiredCell "name" s fun s _ => s) := by
    refine .mandatory ?_
    rintro _ rfl
    rfl
  exact gives_record _ (.cons hname .nil) (routeArgument_complete s) h

def Variable.cells (v : Variable String) : List (Cell (Variable String)) :=
  [textCell "id" v.id fun s v => { v with id := s },
    textCell "frameId" v.frameId fun s v => { v with frameId := s },
    textCell "key" v.key fun s v => { v with key := s },
    textCell "value" v.value fun s v => { v with value := s },
    codeCell "type" v.kind fun k v => { v with kind := k }]

def Variable.Renders (v : Variable String) : Json → Prop := Cell.RendersAmong v.cells default

theorem Variable.complete (v : Variable String) : Cell.Complete v.cells default v where
  nodup := by simp [cells, textCell, codeCell]
  commute := by simp [cells, textCell, codeCell, Cell.Commute]
  whole := by simp only [cells, textCell, codeCell, default, List.foldl]

theorem Variable.worded (v : Variable String) : format.Worded .variable v.toJson v.Renders := by
  refine worded_of_printed ?_ v.complete.nodup rfl
  exact printed_text rfl rfl rfl (printed_text rfl rfl rfl (printed_text rfl rfl rfl
    (printed_text rfl rfl rfl
      (printed_code (b := .string) rfl rfl (by cases v.kind <;> decide) rfl .nil))))

theorem Variable.gives {v : Variable String} (h : v.Renders j) : Gives Variable.read j v :=
  gives_record _ (.cons text_gives (.cons text_gives (.cons text_gives (.cons text_gives
    (.cons (code_gives (VariableKind.ofCode_code _)) .nil))))) v.complete h

/-! ## Blocks -/

def Property.cells (p : Property String) : List (Cell (Property String)) :=
  [textCell "id" p.id fun s p => { p with id := s },
    textCell "blockId" p.blockId fun s p => { p with blockId := s },
    textCell "key" p.key fun s p => { p with key := s },
    textCell "valueMobile" p.mobile fun s p => { p with mobile := s },
    textCell "valueTablet" p.tablet fun s p => { p with tablet := s },
    textCell "valueDesktop" p.desktop fun s p => { p with desktop := s },
    textCell "type" p.kind fun s p => { p with kind := s },
    textCell "description" p.description fun s p => { p with description := s },
    textCell "valuePicker" p.picker fun s p => { p with picker := s },
    textCell "valuePickerGroup" p.pickerGroup fun s p => { p with pickerGroup := s },
    textCell "valuePickerOptions" p.pickerOptions fun s p => { p with pickerOptions := s },
    flagCell "deprecated" p.deprecated fun b p => { p with deprecated := b },
    textCell "deprecatedReason" p.deprecatedReason fun s p => { p with deprecatedReason := s }]

def Property.Renders (p : Property String) : Json → Prop := Cell.RendersAmong p.cells default

theorem Property.complete (p : Property String) : Cell.Complete p.cells default p where
  nodup := by simp [cells, textCell, flagCell]
  commute := by simp [cells, textCell, flagCell, Cell.Commute]
  whole := by simp only [cells, textCell, flagCell, default, List.foldl]

theorem Property.worded (p : Property String) : format.Worded .property p.toJson p.Renders := by
  refine worded_of_printed ?_ p.complete.nodup rfl
  exact printed_text rfl rfl rfl (printed_text rfl rfl rfl (printed_text rfl rfl rfl
    (printed_text rfl rfl rfl (printed_text rfl rfl rfl (printed_text rfl rfl rfl
      (printed_text rfl rfl rfl (printed_text rfl rfl rfl (printed_text rfl rfl rfl
        (printed_text rfl rfl rfl (printed_text rfl rfl rfl (printed_flag rfl rfl rfl
          (printed_text rfl rfl rfl .nil))))))))))))

theorem Property.gives {p : Property String} (h : p.Renders j) : Gives Property.read j p :=
  gives_record _ (.cons text_gives (.cons text_gives (.cons text_gives (.cons text_gives
    (.cons text_gives (.cons text_gives (.cons text_gives (.cons text_gives (.cons text_gives
      (.cons text_gives (.cons text_gives (.cons flag_gives (.cons text_gives .nil)))))))))))))
    p.complete h

def BlockData.cells (d : BlockData String) : List (Cell (BlockData String)) :=
  [textCell "id" d.id fun s d => { d with id := s },
    textCell "blockId" d.blockId fun s d => { d with blockId := s },
    textCell "key" d.key fun s d => { d with key := s },
    textCell "value" d.value fun s d => { d with value := s },
    textCell "type" d.kind fun s d => { d with kind := s },
    textCell "description" d.description fun s d => { d with description := s },
    flagCell "deprecated" d.deprecated fun b d => { d with deprecated := b },
    textCell "deprecatedReason" d.deprecatedReason fun s d => { d with deprecatedReason := s }]

def BlockData.Renders (d : BlockData String) : Json → Prop := Cell.RendersAmong d.cells default

theorem BlockData.complete (d : BlockData String) : Cell.Complete d.cells default d where
  nodup := by simp [cells, textCell, flagCell]
  commute := by simp [cells, textCell, flagCell, Cell.Commute]
  whole := by simp only [cells, textCell, flagCell, default, List.foldl]

theorem BlockData.worded (d : BlockData String) : format.Worded .data d.toJson d.Renders := by
  refine worded_of_printed ?_ d.complete.nodup rfl
  exact printed_text rfl rfl rfl (printed_text rfl rfl rfl (printed_text rfl rfl rfl
    (printed_text rfl rfl rfl (printed_text rfl rfl rfl (printed_text rfl rfl rfl
      (printed_flag rfl rfl rfl (printed_text rfl rfl rfl .nil)))))))

theorem BlockData.gives {d : BlockData String} (h : d.Renders j) : Gives BlockData.read j d :=
  gives_record _ (.cons text_gives (.cons text_gives (.cons text_gives (.cons text_gives
    (.cons text_gives (.cons text_gives (.cons flag_gives (.cons text_gives .nil))))))))
    d.complete h

def Slot.cells (t : Slot String) : List (Cell (Slot String)) :=
  [textCell "id" t.id fun s t => { t with id := s },
    textCell "blockId" t.blockId fun s t => { t with blockId := s },
    textCell "slot" t.name fun s t => { t with name := s },
    textCell "description" t.description fun s t => { t with description := s },
    flagCell "deprecated" t.deprecated fun b t => { t with deprecated := b },
    textCell "deprecatedReason" t.deprecatedReason fun s t => { t with deprecatedReason := s }]

def Slot.Renders (t : Slot String) : Json → Prop := Cell.RendersAmong t.cells default

theorem Slot.complete (t : Slot String) : Cell.Complete t.cells default t where
  nodup := by simp [cells, textCell, flagCell]
  commute := by simp [cells, textCell, flagCell, Cell.Commute]
  whole := by simp only [cells, textCell, flagCell, default, List.foldl]

theorem Slot.worded (t : Slot String) : format.Worded .slot t.toJson t.Renders := by
  refine worded_of_printed ?_ t.complete.nodup rfl
  exact printed_text rfl rfl rfl (printed_text rfl rfl rfl (printed_text rfl rfl rfl
    (printed_text rfl rfl rfl (printed_flag rfl rfl rfl (printed_text rfl rfl rfl .nil)))))

theorem Slot.gives {t : Slot String} (h : t.Renders j) : Gives Slot.read j t :=
  gives_record _ (.cons text_gives (.cons text_gives (.cons text_gives (.cons text_gives
    (.cons flag_gives (.cons text_gives .nil)))))) t.complete h

def Block.cells (b : Block String) : List (Cell (Block String)) :=
  [textCell "id" b.id fun s b => { b with id := s },
    textCell "frameId" b.frameId fun s b => { b with frameId := s },
    textCell "keyType" b.keyType fun s b => { b with keyType := s },
    textCell "key" b.key fun s b => { b with key := s },
    textCell "visibilityKey" b.visibilityKey fun s b => { b with visibilityKey := s },
    indexCell "position" b.position fun n b => { b with position := n },
    textCell "slot" b.slot fun s b => { b with slot := s },
    versionCell b.version fun i b => { b with version := i },
    textCell "parentId" b.parentId fun s b => { b with parentId := s },
    recordsCell "data" BlockData.Renders b.data fun ds b => { b with data := ds },
    recordsCell "properties" Property.Renders b.properties fun ps b => { b with properties := ps },
    recordsCell "slots" Slot.Renders b.slots fun ss b => { b with slots := ss },
    flagCell "integrationDeprecated" b.deprecated fun d b => { b with deprecated := d },
    textCell "integrationDeprecatedReason" b.deprecatedReason fun s b =>
      { b with deprecatedReason := s }]

def Block.Renders (b : Block String) : Json → Prop := Cell.RendersAmong b.cells default

theorem Block.complete (b : Block String) : Cell.Complete b.cells default b where
  nodup := by simp [cells, textCell, indexCell, versionCell, recordsCell, listCell, flagCell]
  commute := by simp [cells, textCell, indexCell, versionCell, recordsCell, listCell, flagCell,
    Cell.Commute]
  whole := by simp only [cells, textCell, indexCell, versionCell, recordsCell, listCell, flagCell,
    default, List.foldl]

theorem Block.worded {b : Block String} (h : b.position < Json.powerOfTwo 64) :
    format.Worded .block b.toJson b.Renders := by
  refine worded_of_printed ?_ b.complete.nodup rfl
  exact printed_text rfl rfl rfl (printed_text rfl rfl rfl (printed_text rfl rfl rfl
    (printed_text rfl rfl rfl (printed_text rfl rfl rfl (printed_index h rfl rfl rfl
      (printed_text rfl rfl rfl (printed_version rfl rfl rfl (printed_text rfl rfl rfl
        (printed_records rfl rfl (fun d _ => d.worded) rfl
          (printed_records rfl rfl (fun p _ => p.worded) rfl
            (printed_records rfl rfl (fun s _ => s.worded) rfl (printed_flag rfl rfl rfl
              (printed_text rfl rfl rfl .nil)))))))))))))

theorem Block.gives {b : Block String} (h : b.Renders j) : Gives Block.read j b :=
  gives_record _ (.cons text_gives (.cons text_gives (.cons text_gives (.cons text_gives
    (.cons text_gives (.cons index_gives (.cons text_gives (.cons int32_gives (.cons text_gives
      (.cons (records_gives BlockData.gives) (.cons (records_gives Property.gives)
        (.cons (records_gives Slot.gives) (.cons flag_gives (.cons text_gives .nil))))))))))))))
    b.complete h

/-! ## Actions -/

def TriggerProperty.cells (p : TriggerProperty String) : List (Cell (TriggerProperty String)) :=
  [textCell "id" p.id fun s p => { p with id := s },
    textCell "actionTriggerId" p.triggerId fun s p => { p with triggerId := s },
    textCell "key" p.key fun s p => { p with key := s },
    textCell "value" p.value fun s p => { p with value := s },
    textCell "type" p.kind fun s p => { p with kind := s },
    textCell "description" p.description fun s p => { p with description := s },
    textCell "valuePicker" p.picker fun s p => { p with picker := s },
    textCell "valuePickerGroup" p.pickerGroup fun s p => { p with pickerGroup := s },
    textCell "valuePickerOptions" p.pickerOptions fun s p => { p with pickerOptions := s },
    flagCell "deprecated" p.deprecated fun b p => { p with deprecated := b },
    textCell "deprecatedReason" p.deprecatedReason fun s p => { p with deprecatedReason := s }]

def TriggerProperty.Renders (p : TriggerProperty String) : Json → Prop :=
  Cell.RendersAmong p.cells default

theorem TriggerProperty.complete (p : TriggerProperty String) :
    Cell.Complete p.cells default p where
  nodup := by simp [cells, textCell, flagCell]
  commute := by simp [cells, textCell, flagCell, Cell.Commute]
  whole := by simp only [cells, textCell, flagCell, default, List.foldl]

theorem TriggerProperty.worded (p : TriggerProperty String) :
    format.Worded .triggerProperty p.toJson p.Renders := by
  refine worded_of_printed ?_ p.complete.nodup rfl
  exact printed_text rfl rfl rfl (printed_text rfl rfl rfl (printed_text rfl rfl rfl
    (printed_text rfl rfl rfl (printed_text rfl rfl rfl (printed_text rfl rfl rfl
      (printed_text rfl rfl rfl (printed_text rfl rfl rfl (printed_text rfl rfl rfl
        (printed_flag rfl rfl rfl (printed_text rfl rfl rfl .nil))))))))))

theorem TriggerProperty.gives {p : TriggerProperty String} (h : p.Renders j) :
    Gives TriggerProperty.read j p :=
  gives_record _ (.cons text_gives (.cons text_gives (.cons text_gives (.cons text_gives
    (.cons text_gives (.cons text_gives (.cons text_gives (.cons text_gives (.cons text_gives
      (.cons flag_gives (.cons text_gives .nil))))))))))) p.complete h

def TriggerData.cells (d : TriggerData String) : List (Cell (TriggerData String)) :=
  [textCell "id" d.id fun s d => { d with id := s },
    textCell "actionTriggerId" d.triggerId fun s d => { d with triggerId := s },
    textCell "key" d.key fun s d => { d with key := s },
    textCell "value" d.value fun s d => { d with value := s },
    textCell "type" d.kind fun s d => { d with kind := s },
    textCell "description" d.description fun s d => { d with description := s },
    flagCell "deprecated" d.deprecated fun b d => { d with deprecated := b },
    textCell "deprecatedReason" d.deprecatedReason fun s d => { d with deprecatedReason := s }]

def TriggerData.Renders (d : TriggerData String) : Json → Prop := Cell.RendersAmong d.cells default

theorem TriggerData.complete (d : TriggerData String) : Cell.Complete d.cells default d where
  nodup := by simp [cells, textCell, flagCell]
  commute := by simp [cells, textCell, flagCell, Cell.Commute]
  whole := by simp only [cells, textCell, flagCell, default, List.foldl]

theorem TriggerData.worded (d : TriggerData String) :
    format.Worded .triggerData d.toJson d.Renders := by
  refine worded_of_printed ?_ d.complete.nodup rfl
  exact printed_text rfl rfl rfl (printed_text rfl rfl rfl (printed_text rfl rfl rfl
    (printed_text rfl rfl rfl (printed_text rfl rfl rfl (printed_text rfl rfl rfl
      (printed_flag rfl rfl rfl (printed_text rfl rfl rfl .nil)))))))

theorem TriggerData.gives {d : TriggerData String} (h : d.Renders j) : Gives TriggerData.read j d :=
  gives_record _ (.cons text_gives (.cons text_gives (.cons text_gives (.cons text_gives
    (.cons text_gives (.cons text_gives (.cons flag_gives (.cons text_gives .nil))))))))
    d.complete h

def Trigger.cells (t : Trigger String) : List (Cell (Trigger String)) :=
  [textCell "id" t.id fun s t => { t with id := s },
    textCell "actionId" t.actionId fun s t => { t with actionId := s },
    textCell "parentId" t.parentId fun s t => { t with parentId := s },
    textCell "keyType" t.keyType fun s t => { t with keyType := s },
    codeCell "then" t.mode fun m t => { t with mode := m },
    textCell "name" t.name fun s t => { t with name := s },
    versionCell t.version fun i t => { t with version := i },
    recordsCell "properties" TriggerProperty.Renders t.properties fun ps t =>
      { t with properties := ps },
    recordsCell "data" TriggerData.Renders t.data fun ds t => { t with data := ds },
    flagCell "integrationDeprecated" t.deprecated fun b t => { t with deprecated := b },
    textCell "integrationDeprecatedReason" t.deprecatedReason fun s t =>
      { t with deprecatedReason := s }]

def Trigger.Renders (t : Trigger String) : Json → Prop := Cell.RendersAmong t.cells default

theorem Trigger.complete (t : Trigger String) : Cell.Complete t.cells default t where
  nodup := by simp [cells, textCell, codeCell, versionCell, recordsCell, listCell, flagCell]
  commute := by simp [cells, textCell, codeCell, versionCell, recordsCell, listCell, flagCell,
    Cell.Commute]
  whole := by simp only [cells, textCell, codeCell, versionCell, recordsCell, listCell, flagCell,
    default, List.foldl]

theorem Trigger.worded (t : Trigger String) : format.Worded .trigger t.toJson t.Renders := by
  refine worded_of_printed ?_ t.complete.nodup rfl
  exact printed_text rfl rfl rfl (printed_text rfl rfl rfl (printed_text rfl rfl rfl
    (printed_text rfl rfl rfl (printed_code (b := .next) rfl rfl (by cases t.mode <;> decide) rfl
      (printed_text rfl rfl rfl (printed_version rfl rfl rfl
        (printed_records rfl rfl (fun p _ => p.worded) rfl
          (printed_records rfl rfl (fun d _ => d.worded) rfl (printed_flag rfl rfl rfl
            (printed_text rfl rfl rfl .nil))))))))))

theorem Trigger.gives {t : Trigger String} (h : t.Renders j) : Gives Trigger.read j t :=
  gives_record _ (.cons text_gives (.cons text_gives (.cons text_gives (.cons text_gives
    (.cons (code_gives (ThenMode.ofCode_code _)) (.cons text_gives (.cons int32_gives
      (.cons (records_gives TriggerProperty.gives) (.cons (records_gives TriggerData.gives)
        (.cons flag_gives (.cons text_gives .nil))))))))))) t.complete h

def Action.cells (a : Action String) : List (Cell (Action String)) :=
  [textCell "id" a.id fun s a => { a with id := s },
    textCell "frameId" a.frameId fun s a => { a with frameId := s },
    textCell "key" a.key fun s a => { a with key := s },
    textCell "event" a.event fun s a => { a with event := s },
    recordsCell "triggers" Trigger.Renders a.triggers fun ts a => { a with triggers := ts }]

def Action.Renders (a : Action String) : Json → Prop := Cell.RendersAmong a.cells default

theorem Action.complete (a : Action String) : Cell.Complete a.cells default a where
  nodup := by simp [cells, textCell, recordsCell, listCell]
  commute := by simp [cells, textCell, recordsCell, listCell, Cell.Commute]
  whole := by simp only [cells, textCell, recordsCell, listCell, default, List.foldl]

theorem Action.worded (a : Action String) : format.Worded .action a.toJson a.Renders := by
  refine worded_of_printed ?_ a.complete.nodup rfl
  exact printed_text rfl rfl rfl (printed_text rfl rfl rfl (printed_text rfl rfl rfl
    (printed_text rfl rfl rfl (printed_records rfl rfl (fun t _ => t.worded) rfl .nil))))

theorem Action.gives {a : Action String} (h : a.Renders j) : Gives Action.read j a :=
  gives_record _ (.cons text_gives (.cons text_gives (.cons text_gives (.cons text_gives
    (.cons (records_gives Trigger.gives) .nil))))) a.complete h

/-! ## Frames -/

def cells (F : Frame String) : List (Cell (Frame String)) :=
  [textCell "id" F.id fun s F => { F with id := s },
    textCell "name" F.name fun s F => { F with name := s },
    textCell "route" F.route fun s F => { F with route := s },
    recordsCell "routeArguments" routeArgumentRenders F.routeArguments fun as F =>
      { F with routeArguments := as },
    codeCell "type" F.kind fun k F => { F with kind := k },
    flagCell "isStarter" F.isStarter fun b F => { F with isStarter := b },
    textCell "projectId" F.projectId fun s F => { F with projectId := s },
    textCell "checksum" F.checksum fun s F => { F with checksum := s },
    recordsCell "variables" Variable.Renders F.vars fun vs F => { F with vars := vs },
    recordsCell "blocks" Block.Renders F.blocks fun bs F => { F with blocks := bs },
    recordsCell "actions" Action.Renders F.actions fun as F => { F with actions := as }]

def Renders (F : Frame String) : Json → Prop := Cell.RendersAmong F.cells default

theorem complete (F : Frame String) : Cell.Complete F.cells default F where
  nodup := by simp [cells, textCell, recordsCell, listCell, codeCell, flagCell]
  commute := by simp [cells, textCell, recordsCell, listCell, codeCell, flagCell, Cell.Commute]
  whole := by simp only [cells, textCell, recordsCell, listCell, codeCell, flagCell, default,
    List.foldl]

theorem worded {F : Frame String} (h : ∀ b ∈ F.blocks, b.position < Json.powerOfTwo 64) :
    format.Worded .frame F.toJson F.Renders := by
  refine worded_of_printed ?_ F.complete.nodup rfl
  exact printed_text rfl rfl rfl (printed_text rfl rfl rfl (printed_text rfl rfl rfl
    (printed_records rfl rfl (fun s _ => routeArgument_worded s) rfl
      (printed_code (b := .frame) rfl rfl (by cases F.kind <;> decide) rfl
        (printed_flag rfl rfl rfl (printed_text rfl rfl rfl (printed_text rfl rfl rfl
          (printed_records rfl rfl (fun v _ => v.worded) rfl
            (printed_records rfl rfl (fun b hb => Block.worded (h b hb)) rfl
              (printed_records rfl rfl (fun a _ => a.worded) rfl .nil))))))))))

theorem gives {F : Frame String} (h : F.Renders j) : Gives read j F :=
  gives_record _ (.cons text_gives (.cons text_gives (.cons text_gives
    (.cons (records_gives routeArgument_gives) (.cons (code_gives (FrameKind.ofCode_code _))
      (.cons flag_gives (.cons text_gives (.cons text_gives (.cons (records_gives Variable.gives)
        (.cons (records_gives Block.gives) (.cons (records_gives Action.gives) .nil)))))))))))
    F.complete h

end

end Frame

end FrameTree
