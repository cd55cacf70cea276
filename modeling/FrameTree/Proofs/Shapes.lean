import FrameTree.Proofs.Frames

/-!
# Frames on their way

A frame travels as it is, inside `data.frameProduction` or inside `frame` (`Frame.Wraps`). Which
shape a value has depends on nothing else in it, and a frame has no member that could be mistaken
for a shape. So a frame in other words is read in each of the shapes, whatever stands beside it.

**Texts in texts.** The input of a synchronisation carries the text of a frame as a string. Reading
the input gives the string back with all its characters, and so the frame.

Main result: `Frame.parse_wrapped`.
-/

namespace FrameTree

namespace Frame

open Json (Cell Field)
open FrameTree.Document (requiredCell required_reads)

variable {j w : Json}

/-! ## Shapes -/

/-- The value is a frame, or an object with a frame at the place that its shape has for it. -/
inductive Wraps (j : Json) : Json → Prop
  | bare : Wraps j j
  | production {ms inner : List (String × Json)} (hms : (ms.map Prod.fst).Nodup)
      (hinner : (inner.map Prod.fst).Nodup) (hdata : ("data", .object inner) ∈ ms)
      (hframe : ("frameProduction", j) ∈ inner) : Wraps j (.object ms)
  | fetched {ms : List (String × Json)} (hms : (ms.map Prod.fst).Nodup)
      (hframe : ("frame", j) ∈ ms)
      (hother : (Json.object ms).pointer? ["data", "frameProduction"] = none) : Wraps j (.object ms)

/-- The value of a frame has no member that stands for a shape. -/
theorem get?_variant {F : Frame String} (h : format.Variant .frame F.toJson j) :
    ∃ ms, j = .object ms ∧ (ms.map Prod.fst).Nodup ∧ j.get? "data" = none ∧
      j.get? "frame" = none := by
  cases h with
  | @record _ ms kept added ns hkept hadded hnodup hperm =>
    have hname {name : String} (hmember : name ∉ Part.members .frame)
        (hforeign : ¬format.Foreign .frame name) : (Json.object ns).get? name = none := by
      rw [Json.get?, List.lookup_eq_none_iff]
      intro m hm
      refine (bne_iff_ne).2 ?_
      rintro rfl
      rcases List.mem_append.1 (hperm.mem_iff.1 hm) with hm | hm
      · exact hmember (hkept.sublist.subset (List.mem_map_of_mem hm))
      · exact hforeign (hadded m hm)
    refine ⟨ns, rfl, hnodup, hname (by decide) ?_, hname (by decide) ?_⟩
    · exact fun h => (h.2 rfl).2 rfl
    · exact fun h => (h.2 rfl).1 rfl

theorem Wraps.inside_reread {F : Frame String} (hwraps : Wraps j w)
    (hj : format.Variant .frame F.toJson j) : inside w.reread = j.reread := by
  cases hwraps with
  | bare =>
    obtain ⟨ms, rfl, hms, hdata, hframe⟩ := get?_variant hj
    rw [inside, Json.pointer?_reread hms, hdata, Json.get?_reread hms, hframe]
    rfl
  | production hms hinner hdata hframe =>
    rw [inside, Json.pointer?_reread hms, Json.get?, (Json.lookup_eq_some_iff hms).2 hdata,
      Option.bind_some, Json.pointer?_reread hinner, Json.get?,
      (Json.lookup_eq_some_iff hinner).2 hframe]
    rfl
  | @fetched ms hms hframe hother =>
    have hnone : (Json.object ms).reread.pointer? ["data", "frameProduction"] = none := by
      rw [Json.pointer?_reread hms]
      cases hdata : (Json.object ms).get? "data" with
      | none => rfl
      | some v =>
        have hv : v.pointer? ["frameProduction"] = none := by
          have hbind : ((Json.object ms).get? "data").bind (Json.pointer? ["frameProduction"]) =
              none := hother
          rwa [hdata] at hbind
        exact Json.pointer?_reread_none (by decide) hv
    rw [inside, hnone, Json.get?_reread hms, Json.get?, (Json.lookup_eq_some_iff hms).2 hframe]
    rfl

/-! ## Printed frames -/

theorem Property.within (p : Property String) (room : Nat) : p.toJson.Within (room + 1) := by
  simp [toJson]

theorem BlockData.within (d : BlockData String) (room : Nat) : d.toJson.Within (room + 1) := by
  simp [toJson]

theorem Slot.within (s : Slot String) (room : Nat) : s.toJson.Within (room + 1) := by
  simp [toJson]

theorem Block.within {b : Block String} (h : b.position < Json.powerOfTwo 64) (room : Nat) :
    b.toJson.Within (room + 3) := by
  simp [toJson, Json.within_index h, BlockData.within, Property.within, Slot.within]

theorem TriggerProperty.within (p : TriggerProperty String) (room : Nat) :
    p.toJson.Within (room + 1) := by
  simp [toJson]

theorem TriggerData.within (d : TriggerData String) (room : Nat) : d.toJson.Within (room + 1) := by
  simp [toJson]

theorem Trigger.within (t : Trigger String) (room : Nat) : t.toJson.Within (room + 3) := by
  simp [toJson, TriggerProperty.within, TriggerData.within]

theorem Action.within (a : Action String) (room : Nat) : a.toJson.Within (room + 5) := by
  simp [toJson, Trigger.within]

theorem Variable.within (v : Variable String) (room : Nat) : v.toJson.Within (room + 1) := by
  simp [toJson]

/-- A printed frame nests seven deep, whatever its tree is. -/
theorem within {F : Frame String} (h : ∀ b ∈ F.blocks, b.position < Json.powerOfTwo 64)
    (room : Nat) : F.toJson.Within (room + 7) := by
  have hblocks : ∀ b ∈ F.blocks, b.toJson.Within (room + 5) := fun b hb =>
    Block.within (h b hb) (room + 2)
  have hvars : ∀ v ∈ F.vars, v.toJson.Within (room + 5) := fun v _ => v.within (room + 4)
  simpa [toJson, Action.within] using ⟨hvars, hblocks⟩

/-! ## Reading -/

theorem parse_of_wraps {F : Frame String} (hF : ∀ b ∈ F.blocks, b.position < Json.powerOfTwo 64)
    (hj : format.Variant .frame F.toJson j) (hw : Wraps j w) (hwithin : w.Within Json.nestingRoom)
    {text : String} (htext : text ∈ [w.compact, w.pretty]) : parse text = .ok F := by
  rw [parse, hwithin.parse_eq htext]
  show read (inside w.reread) = .ok F
  rw [hw.inside_reread hj]
  exact gives ((worded hF).form j hj)

theorem parse_print {F : Frame String} (hF : ∀ b ∈ F.blocks, b.position < Json.powerOfTwo 64) :
    parse F.print = .ok F :=
  parse_of_wraps hF (worded hF).self .bare (within hF 120) List.mem_cons_self

end Frame

namespace SyncInput

open Json (Cell Node)
open Json.Node (Reads reads_record)
open FrameTree.Document (requiredCell required_reads)

def cells (s : SyncInput) : List (Cell SyncInput) :=
  [requiredCell "route" s.route fun t s => { s with route := t },
    requiredCell "frameJson" s.frame fun t s => { s with frame := t }]

theorem complete (s : SyncInput) : Cell.Complete s.cells default s where
  nodup := by simp [cells, requiredCell]
  commute := by simp [cells, requiredCell, Cell.Commute]
  whole := rfl

/-- An input that is printed is read back. -/
theorem parse_toJson (s : SyncInput) {text : String}
    (htext : text ∈ [s.toJson.compact, s.toJson.pretty]) : parse text = .ok s := by
  have hrenders : Cell.Renders s.cells default s.toJson :=
    ⟨_, rfl, Cell.Listed.writes (.given rfl (.given rfl .nil)) s.complete.nodup⟩
  have hreads : Reads (read Json.nestingRoom) Json.nestingRoom s.toJson s :=
    reads_record _ (.cons required_reads (.cons required_reads .nil)) s.complete hrenders
  rw [parse, Node.readText_of_scan _ (Node.scan_printed htext hreads.legible), hreads.read_ofJson]
  rfl

end SyncInput

namespace Frame

/-- **Every shape is read.** A frame in other words is read as the frame, on its own or inside an
object of one of the shapes, whatever else the object has, if at most 127 lists and objects are open
at once. The printed frame is one of its own variants. The input of a synchronisation carries a text
that the frame is read from, and the input itself is read back. -/
theorem parse_wrapped (F : Frame String) (hF : ∀ b ∈ F.blocks, b.position < Json.powerOfTwo 64) :
    (format.Variant .frame F.toJson F.toJson ∧
      ∀ j w, format.Variant .frame F.toJson j → Wraps j w → w.Proper → w.nesting ≤ 127 →
        ∀ text ∈ [w.compact, w.pretty], parse text = .ok F) ∧
    ((SyncInput.ofFrame F).route = F.route ∧ parse (SyncInput.ofFrame F).frame = .ok F ∧
      ∀ text ∈ [(SyncInput.ofFrame F).toJson.compact, (SyncInput.ofFrame F).toJson.pretty],
        SyncInput.parse text = .ok (SyncInput.ofFrame F)) := by
  refine ⟨⟨(worded hF).self, ?_⟩, rfl, parse_print hF, fun _ => SyncInput.parse_toJson _⟩
  intro j w hj hw hproper hnesting text htext
  exact parse_of_wraps hF hj hw ⟨hproper.readable, hnesting⟩ htext

/-- A frame with a single block. -/
def note : Frame String :=
  { (default : Frame String) with
    name := "note", blocks := [{ (default : Block String) with key := "text", position := 1 }] }

/-- A member that no block has, with a number that is not whole. -/
def noteWidth : String × Json := ("width", .number (.float ⟨false, 1, -1⟩))

/-- The block without what has its default value, and with another member. -/
def noteBlockInShort : Json :=
  .object [("position", .ofNat 1), noteWidth, ("key", .string "text")]

def noteInShort : Json :=
  .object [("blocks", .array [noteBlockInShort]), ("name", .string "note")]

/-- The answer of a server, with a member beside the frame that stands for another shape. -/
def noteInAnswer : Json :=
  .object [("frame", .null),
    ("data", .object [("page", .ofNat 1), ("frameProduction", noteInShort)])]

theorem parse_wrapped_note :
    (∀ b ∈ note.blocks, b.position < Json.powerOfTwo 64) ∧
      format.Variant .frame note.toJson noteInShort ∧ Wraps noteInShort noteInAnswer ∧
      noteInAnswer.Proper ∧ noteInAnswer.nesting ≤ 127 ∧
      noteInAnswer.compact ∈ [noteInAnswer.compact, noteInAnswer.pretty] ∧
      parse noteInAnswer.compact = .ok note := by
  have hpositions : ∀ b ∈ note.blocks, b.position < Json.powerOfTwo 64 := by decide
  have hkept : format.Kept .block
      [("id", .string ""), ("frameId", .string ""), ("keyType", .string ""),
        ("key", .string "text"), ("visibilityKey", .string ""), ("position", .ofNat 1),
        ("slot", .string ""),
        ("integrationVersion", .ofInt32 0), ("parentId", .string ""), ("data", .array []),
        ("properties", .array []), ("slots", .array []), ("integrationDeprecated", .bool false),
        ("integrationDeprecatedReason", .string "")]
      [("key", .string "text"), ("position", .ofNat 1)] :=
    .leave rfl (.leave rfl (.leave rfl (.keep (.same _) (.leave rfl (.keep (.same _) (.leave rfl
      (.leave rfl (.leave rfl (.leave rfl (.leave rfl (.leave rfl (.leave rfl
        (.leave rfl .nil)))))))))))))
  have hadded : ∀ m ∈ [noteWidth], format.Foreign .block m.1 := by
    intro m hm
    rw [List.mem_singleton.1 hm]
    exact ⟨by decide, fun h => nomatch h⟩
  have hblock : format.Variant .block _ noteBlockInShort :=
    .record hkept hadded (by decide) (((List.Perm.swap _ _ _).cons _).trans (.swap _ _ _))
  have hvariant : format.Variant .frame note.toJson noteInShort :=
    .of_kept (.leave rfl (.keep (.same _) (.leave rfl (.leave rfl (.leave rfl (.leave rfl
      (.leave rfl (.leave rfl (.leave rfl (.keep (.list (.cons hblock .nil))
        (.leave rfl .nil))))))))))) (by decide) (.swap _ _ _)
  have hwraps : Wraps noteInShort noteInAnswer :=
    .production (by decide) (by decide) (.tail _ (.head _)) (.tail _ (.head _))
  have hproper : noteInAnswer.Proper := by
    have hnumbers : noteInAnswer.numbers = [.int 1, .int 1, .float ⟨false, 1, -1⟩] := rfl
    rw [Json.Proper, hnumbers]
    simp only [List.forall_mem_cons, List.not_mem_nil, false_implies, implies_true, and_true]
    exact ⟨⟨by decide, by decide⟩, ⟨by decide, by decide⟩, by decide, by decide, by decide⟩
  have hnesting : noteInAnswer.nesting ≤ 127 := by decide
  have hcompact : noteInAnswer.compact ∈ [noteInAnswer.compact, noteInAnswer.pretty] :=
    List.mem_cons_self
  exact ⟨hpositions, hvariant, hwraps, hproper, hnesting, hcompact,
    (parse_wrapped note hpositions).1.2 _ _ hvariant hwraps hproper hnesting _ hcompact⟩

end Frame

end FrameTree
