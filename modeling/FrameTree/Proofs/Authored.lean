import FrameTree.Proofs.Variant

/-!
# Documents written by an author

An author need not write a document the way it is printed. Members come in any order, and whatever
has its default value may be missing; only keys, key types, events and the names of slots are always
there. `Document.format` is the list of these defaults.

**Any rendering** (`Document.parse_variant`). Every value that is the printed document in other
words is read as that document, up to the two texts that stand for no slot, if it does not nest too
deep. It makes no difference whether the value is printed on one line or on many.

For each kind of record, `worded` says that the value it is printed as is one of its variants, and
that all its variants write the record. Triggers and blocks go by the trees below them.

Main result: `Document.parse_variant`.
-/

namespace FrameTree.Document

open Json (Cell Format Node)
open Json.Cell (Printed)

variable {ρ : Type}

/-! ## What may be left out -/

/-- The kinds of records in a document. -/
inductive Part where
  | document
  | variable
  | block
  | property
  | binding
  | slot
  | action
  | trigger
  | triggerProperty
deriving DecidableEq, Repr

/-- The members that have a default, and what it is. -/
def Part.defaults : Part → List (String × Json)
  | .document =>
    [("$schema", .string ""), ("name", .string ""), ("route", .string ""),
      ("type", .string "FRAME"), ("isStarter", .bool false), ("variables", .array []),
      ("blocks", .array [])]
  | .variable => [("value", .string ""), ("type", .string "STRING")]
  | .block =>
    [("visibilityKey", .string ""), ("integrationVersion", .ofInt32 0), ("properties", .array []),
      ("data", .array []), ("slots", .array []), ("actions", .array []), ("blocks", .array [])]
  | .property =>
    [("valueMobile", .string ""), ("valueTablet", .string ""), ("valueDesktop", .string ""),
      ("type", .string ""), ("description", .string ""), ("valuePicker", .string ""),
      ("valuePickerGroup", .string ""), ("valuePickerOptions", .string "")]
  | .binding => [("value", .string ""), ("type", .string ""), ("description", .string "")]
  | .slot => [("description", .string "")]
  | .action => [("key", .string ""), ("triggers", .array [])]
  | .trigger =>
    [("then", .string "NEXT"), ("name", .string ""), ("integrationVersion", .ofInt32 0),
      ("properties", .array []), ("data", .array []), ("triggers", .array [])]
  | .triggerProperty =>
    [("value", .string ""), ("type", .string ""), ("description", .string ""),
      ("valuePicker", .string ""), ("valuePickerGroup", .string ""),
      ("valuePickerOptions", .string "")]

/-- The members that are lists of records. -/
def Part.lists : Part → List (String × Part)
  | .document => [("variables", .variable), ("blocks", .block)]
  | .block =>
    [("properties", .property), ("data", .binding), ("slots", .slot), ("actions", .action),
      ("blocks", .block)]
  | .action => [("triggers", .trigger)]
  | .trigger => [("properties", .triggerProperty), ("data", .binding), ("triggers", .trigger)]
  | _ => []

/-- How an author writes a document. Members that a document does not have are not added. -/
def format : Format Part := ⟨Part.defaults, Part.lists, fun _ _ => False⟩

section

variable {k : Part} {blank : ρ} {cells : List (Cell ρ)} {ms : List (String × Json)}

/-- Nothing may be added to a printed record. -/
theorem worded_of_printed (h : Printed format k blank cells ms)
    (hnodup : (cells.map Cell.name).Nodup) :
    format.Worded k (.object ms) (Cell.Renders cells blank) :=
  h.worded_closed hnodup fun _ h => h

end

/-! ## Parts -/

theorem Variable.worded (v : Variable) : format.Worded .variable v.toJson v.Renders := by
  refine worded_of_printed ?_ v.complete.nodup
  exact printed_required rfl rfl (printed_text rfl rfl rfl
    (printed_code (b := .string) rfl rfl (by cases v.kind <;> decide) rfl .nil))

theorem Property.worded (p : Property) : format.Worded .property p.toJson p.Renders := by
  refine worded_of_printed ?_ p.complete.nodup
  simp only [List.append_assoc, List.cons_append, List.nil_append]
  exact printed_required rfl rfl (printed_present rfl rfl (fun h => h ▸ rfl)
    (printed_text rfl rfl rfl (printed_text rfl rfl rfl (printed_text rfl rfl rfl
      (printed_text rfl rfl rfl (printed_nonEmpty rfl rfl rfl (printed_nonEmpty rfl rfl rfl
        (printed_nonEmpty rfl rfl rfl (printed_nonEmpty_last rfl rfl rfl)))))))))

theorem Binding.worded (b : Binding) : format.Worded .binding b.toJson b.Renders := by
  refine worded_of_printed ?_ b.complete.nodup
  exact printed_required rfl rfl (printed_text rfl rfl rfl (printed_text rfl rfl rfl
    (printed_nonEmpty_last rfl rfl rfl)))

theorem Slot.worded (s : Slot) : format.Worded .slot s.toJson s.Renders := by
  refine worded_of_printed ?_ s.complete.nodup
  exact printed_required rfl rfl (printed_nonEmpty_last rfl rfl rfl)

theorem TriggerProperty.worded (p : TriggerProperty) :
    format.Worded .triggerProperty p.toJson p.Renders := by
  refine worded_of_printed ?_ p.complete.nodup
  simp only [List.append_assoc, List.cons_append, List.nil_append]
  exact printed_required rfl rfl (printed_text rfl rfl rfl (printed_text rfl rfl rfl
    (printed_nonEmpty rfl rfl rfl (printed_nonEmpty rfl rfl rfl (printed_nonEmpty rfl rfl rfl
      (printed_nonEmpty_last rfl rfl rfl))))))

/-! ## Trees -/

theorem triggersRender_nil {ts : Forest Trigger} (h : triggersRender ts []) : ts = [] := by
  cases ts with
  | nil => rfl
  | cons t ts =>
    obtain ⟨j, js, hjs, -⟩ := h
    cases hjs

theorem blocksRender_nil {ts : Forest Block} (h : blocksRender ts []) : ts = [] := by
  cases ts with
  | nil => rfl
  | cons t ts =>
    obtain ⟨j, js, hjs, -⟩ := h
    cases hjs

theorem Trigger.worded (t : Trigger) {ts : Forest Trigger}
    (h : format.AllWorded .trigger (triggersToJson ts) (triggersRender ts)) :
    format.Worded .trigger (t.toJson (triggersToJson ts)) (triggerRenders (.node t ts)) := by
  refine worded_of_printed ?_ (t.complete ts (triggersRender ts)).nodup
  exact printed_required rfl rfl (printed_code (b := .next) rfl rfl (by cases t.mode <;> decide) rfl
    (printed_text rfl rfl rfl (printed_version rfl rfl rfl
      (printed_records rfl rfl (fun p _ => p.worded) rfl
        (printed_records rfl rfl (fun b _ => b.worded) rfl
          (printed_list rfl rfl h triggersRender_nil rfl .nil))))))

theorem triggers_worded (ts : Forest Trigger) :
    format.AllWorded .trigger (triggersToJson ts) (triggersRender ts) := by
  induction ts using Forest.induction with
  | nil => exact .nil
  | cons t ts rest ih ih' => exact .cons (t.worded ih) ih'

theorem Action.worded (a : Action) : format.Worded .action a.toJson a.Renders := by
  refine worded_of_printed ?_ a.complete.nodup
  exact printed_text rfl rfl rfl (printed_required rfl rfl
    (printed_list rfl rfl (triggers_worded a.triggers) triggersRender_nil rfl .nil))

theorem Block.worded (b : Block) {ts : Forest Block}
    (h : format.AllWorded .block (blocksToJson ts) (blocksRender ts)) :
    format.Worded .block (b.toJson (blocksToJson ts)) (blockRenders (.node b ts)) := by
  refine worded_of_printed ?_ (b.complete ts (blocksRender ts)).nodup
  simp only [List.cons_append, List.nil_append]
  have hslot : b.slot = none → relabel (fun a : Block => { a with slot := tidySlot b.slot })
      default = (default : Tree Block) := fun hnone => by rw [hnone]; rfl
  have hinside : blocksRender ts [] → Forest.relabel Block.tidy ts = [] := by
    intro hnil
    rw [blocksRender_nil hnil]
    rfl
  exact printed_required rfl rfl (printed_required rfl rfl (printed_text rfl rfl rfl
    (printed_present rfl rfl hslot (printed_version rfl rfl rfl
      (printed_records rfl rfl (fun p _ => p.worded) rfl
        (printed_records rfl rfl (fun d _ => d.worded) rfl
          (printed_records rfl rfl (fun s _ => s.worded) rfl
            (printed_records rfl rfl (fun a _ => a.worded) rfl
              (printed_list rfl rfl h hinside rfl .nil)))))))))

theorem blocks_worded (ts : Forest Block) :
    format.AllWorded .block (blocksToJson ts) (blocksRender ts) := by
  induction ts using Forest.induction with
  | nil => exact .nil
  | cons b ts rest ih ih' => exact .cons (b.worded ih) ih'

theorem worded (d : Document) : format.Worded .document d.toJson d.Renders := by
  refine worded_of_printed ?_ d.complete.nodup
  have hblocks : blocksRender d.blocks [] → d.tidy.blocks = [] := by
    intro hnil
    rw [tidy, blocksRender_nil hnil]
    rfl
  exact printed_text rfl rfl rfl (printed_text rfl rfl rfl (printed_text rfl rfl rfl
    (printed_code (b := .frame) rfl rfl (by cases d.kind <;> decide) rfl (printed_flag rfl rfl rfl
      (printed_records rfl rfl (fun v _ => v.worded) rfl
        (printed_list rfl rfl (blocks_worded d.blocks) hblocks rfl .nil))))))

/-! ## Reading -/

/-- **Any rendering is read.** A printed document is one of its own variants. Every variant of it,
printed on one line or on many, is read as the document without the slots that stand for none, if
it has at most 127 lists and objects open at once; otherwise the complaint is that it nests too
deep. -/
theorem parse_variant (d : Document) :
    (format.Variant .document d.toJson d.toJson ∧ d.print = d.toJson.pretty) ∧
    ∀ j, format.Variant .document d.toJson j → ∀ text ∈ [j.compact, j.pretty],
      parse text = if j.nesting ≤ 127 then .ok d.tidy else .error (.malformed .tooDeep) := by
  refine ⟨⟨d.worded.self, rfl⟩, ?_⟩
  intro j hj text htext
  have hrenders : d.Renders j := d.worded.form j hj
  exact parse_of_renders hrenders (Node.scan_printed htext)

/-- A document with a single block, in a slot that stands for none. -/
def outline : Document :=
  let root : Block :=
    { keyType := "ROOT", key := "column", visibilityKey := "", slot := some "null", version := 0,
      properties := [], data := [], slots := [], actions := [] }
  { schema := ""
    name := "home"
    route := ""
    kind := .frame
    isStarter := false
    vars := []
    blocks := [.node root []] }

/-- The same without what has its default value, and with other members first. -/
def outlineInShort : Json :=
  .object [("blocks", .array [.object [("key", .string "column"), ("keyType", .string "ROOT"),
    ("slot", .string "null")]]), ("name", .string "home")]

theorem parse_variant_outline :
    format.Variant .document outline.toJson outlineInShort ∧
      outlineInShort.compact ∈ [outlineInShort.compact, outlineInShort.pretty] ∧
      parse outlineInShort.compact = .ok outline.tidy ∧ tidySlot (some "null") = none := by
  have hroot : format.Variant .block
      (.object [("keyType", .string "ROOT"), ("key", .string "column"),
        ("visibilityKey", .string ""), ("slot", .string "null"), ("integrationVersion", .ofInt32 0),
        ("properties", .array []), ("data", .array []), ("slots", .array []),
        ("actions", .array []), ("blocks", .array [])])
      (.object [("key", .string "column"), ("keyType", .string "ROOT"),
        ("slot", .string "null")]) :=
    .of_kept (.keep (.same _) (.keep (.same _) (.leave rfl (.keep (.same _) (.leave rfl (.leave rfl
      (.leave rfl (.leave rfl (.leave rfl (.leave rfl .nil)))))))))) (by decide) (.swap _ _ _)
  have hvariant : format.Variant .document outline.toJson outlineInShort :=
    .of_kept (.leave rfl (.keep (.same _) (.leave rfl (.leave rfl (.leave rfl (.leave rfl
      (.keep (.list (.cons hroot .nil)) .nil))))))) (by decide) (.swap _ _ _)
  have hcompact : outlineInShort.compact ∈ [outlineInShort.compact, outlineInShort.pretty] :=
    List.mem_cons_self
  exact ⟨hvariant, hcompact, (parse_variant outline).2 _ hvariant _ hcompact, by decide⟩

end FrameTree.Document
