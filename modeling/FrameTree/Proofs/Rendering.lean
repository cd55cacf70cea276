import FrameTree.Document.Parser
import FrameTree.Document.Printer
import FrameTree.Proofs.Forest
import FrameTree.Proofs.Reading

/-!
# Documents written as JSON

Which values write a document (`Document.Renders`): the printed one, and those that leave out members
with default values or have their members in another order. All of them are read as the document
(`Document.reads`), if they do not nest too deep, and with one reservation: a slot that is written as
an empty text or as `null` is read as no slot (`Document.tidy`).

For every kind of record, `cells` are its members, `Renders` the values that write it, `complete`
says that the members make up the record, and `reads` that its reader takes these values for the
record. Triggers and blocks go by the trees below them; since readers stop where there is no more
room, the induction is on the tree and the room is arbitrary.

Main results: `Document.reads`, `Document.renders_toJson` and `Document.parse_print`.
-/

namespace FrameTree

theorem VariableKind.ofCode_code (k : VariableKind) : Json.ofCode (Json.Coded.code k) = .ok k := by
  cases k <;> rfl

theorem ThenMode.ofCode_code (m : ThenMode) : Json.ofCode (Json.Coded.code m) = .ok m := by
  cases m <;> rfl

theorem FrameKind.ofCode_code (k : FrameKind) : Json.ofCode (Json.Coded.code k) = .ok k := by
  cases k <;> rfl

namespace Document

open Json (Cell Field Node)
open Json.Node

variable {α ρ : Type}

/-! ## Members -/

def textCell (name text : String) (set : String → ρ → ρ) : Cell ρ :=
  ⟨name, false, (· = .string text), set text⟩

def requiredCell (name text : String) (set : String → ρ → ρ) : Cell ρ :=
  ⟨name, true, (· = .string text), set text⟩

/-- A text that may be absent. -/
def presentCell (name : String) (text? value : Option String) (set : Option String → ρ → ρ) :
    Cell ρ :=
  ⟨name, false, fun j => ∃ text, text? = some text ∧ j = .string text, set value⟩

def codeCell [Json.Coded α] (name : String) (a : α) (set : α → ρ → ρ) : Cell ρ :=
  ⟨name, false, (· = .string (Json.Coded.code a)), set a⟩

def versionCell (version : Int32) (set : Int32 → ρ → ρ) : Cell ρ :=
  ⟨"integrationVersion", false, (· = .ofInt32 version), set version⟩

def flagCell (name : String) (b : Bool) (set : Bool → ρ → ρ) : Cell ρ :=
  ⟨name, false, (· = .bool b), set b⟩

/-- A list, given what writes its items. -/
def listCell (name : String) (Renders : List Json → Prop) (xs : List α) (set : List α → ρ → ρ) :
    Cell ρ :=
  ⟨name, false, fun j => ∃ js, j = .array js ∧ Renders js, set xs⟩

/-- A list of records. -/
def recordsCell (name : String) (Renders : α → Json → Prop) (xs : List α) (set : List α → ρ → ρ) :
    Cell ρ :=
  listCell name (fun js => List.Forall₂ (fun j x => Renders x j) js xs) xs set

section

variable {room : Nat} {name : String}

theorem text_reads {s : String} {set : String → ρ → ρ} :
    Field.Reads room (text name set) (textCell name s set) :=
  .optional fun _ hj => hj ▸ reads_string s

theorem required_reads {s : String} {set : String → ρ → ρ} :
    Field.Reads room (requiredText name set) (requiredCell name s set) :=
  .mandatory fun _ hj => hj ▸ reads_string s

theorem present_reads {read : Node → Json.Reading (Option String)} {text? value : Option String}
    {set : Option String → ρ → ρ}
    (h : ∀ s, text? = some s → Reads read room (.string s) value) :
    Field.Reads room (.optional name read set) (presentCell name text? value set) := by
  refine .optional ?_
  rintro _ ⟨s, hs, rfl⟩
  exact h s hs

theorem code_reads [Json.Coded α] {a : α} {set : α → ρ → ρ} {codeRoom : Nat}
    (h : Json.ofCode (Json.Coded.code a) = .ok a) :
    Field.Reads room (.optional name (readCode codeRoom) set) (codeCell name a set) :=
  .optional fun _ hj => hj ▸ reads_code h codeRoom

theorem version_reads {i : Int32} {set : Int32 → ρ → ρ} :
    Field.Reads room (.optional "integrationVersion" readInt32 set) (versionCell i set) :=
  .optional fun _ hj => hj ▸ reads_int32 i

theorem flag_reads {b : Bool} {set : Bool → ρ → ρ} :
    Field.Reads room (.optional name readBool set) (flagCell name b set) :=
  .optional fun _ hj => hj ▸ reads_bool b

theorem list_reads {item : Nat → Node → Json.Reading α} {Renders : List Json → Prop} {xs : List α}
    {set : List α → ρ → ρ}
    (h : ∀ js, Renders js → Reads (readList room (item (room - 1))) room (.array js) xs) :
    Field.Reads room (listOf name room item set) (listCell name Renders xs set) := by
  refine .optional ?_
  rintro _ ⟨js, rfl, hjs⟩
  exact h js hjs

theorem records_reads {item : Nat → Node → Json.Reading α} {Renders : α → Json → Prop}
    (h : ∀ {x j}, Renders x j → Reads (item (room - 1)) (room - 1) j x) {xs : List α}
    {set : List α → ρ → ρ} :
    Field.Reads room (listOf name room item set) (recordsCell name Renders xs set) :=
  list_reads fun _ hjs => reads_list (hjs.imp fun _ _ hj => h hj)

end

/-! ## Parts -/

def Variable.cells (v : Variable) : List (Cell Variable) :=
  [requiredCell "key" v.key fun s v => { v with key := s },
    textCell "value" v.value fun s v => { v with value := s },
    codeCell "type" v.kind fun k v => { v with kind := k }]

def Property.cells (p : Property) : List (Cell Property) :=
  [requiredCell "key" p.key fun s p => { p with key := s },
    presentCell "value" p.value p.value fun s p => { p with value := s },
    textCell "valueMobile" p.mobile fun s p => { p with mobile := s },
    textCell "valueTablet" p.tablet fun s p => { p with tablet := s },
    textCell "valueDesktop" p.desktop fun s p => { p with desktop := s },
    textCell "type" p.kind fun s p => { p with kind := s },
    textCell "description" p.description fun s p => { p with description := s },
    textCell "valuePicker" p.picker fun s p => { p with picker := s },
    textCell "valuePickerGroup" p.pickerGroup fun s p => { p with pickerGroup := s },
    textCell "valuePickerOptions" p.pickerOptions fun s p => { p with pickerOptions := s }]

def Binding.cells (b : Binding) : List (Cell Binding) :=
  [requiredCell "key" b.key fun s b => { b with key := s },
    textCell "value" b.value fun s b => { b with value := s },
    textCell "type" b.kind fun s b => { b with kind := s },
    textCell "description" b.description fun s b => { b with description := s }]

def Slot.cells (s : Slot) : List (Cell Slot) :=
  [requiredCell "slot" s.name fun s t => { t with name := s },
    textCell "description" s.description fun s t => { t with description := s }]

def TriggerProperty.cells (p : TriggerProperty) : List (Cell TriggerProperty) :=
  [requiredCell "key" p.key fun s p => { p with key := s },
    textCell "value" p.value fun s p => { p with value := s },
    textCell "type" p.kind fun s p => { p with kind := s },
    textCell "description" p.description fun s p => { p with description := s },
    textCell "valuePicker" p.picker fun s p => { p with picker := s },
    textCell "valuePickerGroup" p.pickerGroup fun s p => { p with pickerGroup := s },
    textCell "valuePickerOptions" p.pickerOptions fun s p => { p with pickerOptions := s }]

def Variable.Renders (v : Variable) : Json → Prop := Cell.Renders v.cells default

def Property.Renders (p : Property) : Json → Prop := Cell.Renders p.cells default

def Binding.Renders (b : Binding) : Json → Prop := Cell.Renders b.cells default

def Slot.Renders (s : Slot) : Json → Prop := Cell.Renders s.cells default

def TriggerProperty.Renders (p : TriggerProperty) : Json → Prop := Cell.Renders p.cells default

theorem Variable.complete (v : Variable) : Cell.Complete v.cells default v where
  nodup := by simp [cells, requiredCell, textCell, codeCell]
  commute := by simp [cells, requiredCell, textCell, codeCell, Cell.Commute]
  whole := by simp only [cells, requiredCell, textCell, codeCell, default, List.foldl]

theorem Property.complete (p : Property) : Cell.Complete p.cells default p where
  nodup := by simp [cells, requiredCell, textCell, presentCell]
  commute := by simp [cells, requiredCell, textCell, presentCell, Cell.Commute]
  whole := by simp only [cells, requiredCell, textCell, presentCell, default, List.foldl]

theorem Binding.complete (b : Binding) : Cell.Complete b.cells default b where
  nodup := by simp [cells, requiredCell, textCell]
  commute := by simp [cells, requiredCell, textCell, Cell.Commute]
  whole := by simp only [cells, requiredCell, textCell, default, List.foldl]

theorem Slot.complete (s : Slot) : Cell.Complete s.cells default s where
  nodup := by simp [cells, requiredCell, textCell]
  commute := by simp [cells, requiredCell, textCell, Cell.Commute]
  whole := by simp only [cells, requiredCell, textCell, default, List.foldl]

theorem TriggerProperty.complete (p : TriggerProperty) : Cell.Complete p.cells default p where
  nodup := by simp [cells, requiredCell, textCell]
  commute := by simp [cells, requiredCell, textCell, Cell.Commute]
  whole := by simp only [cells, requiredCell, textCell, default, List.foldl]

section

variable {room : Nat} {j : Json}

theorem Variable.reads {v : Variable} (h : v.Renders j) : Reads (Variable.read room) room j v :=
  reads_record _ (.cons required_reads (.cons text_reads (.cons
    (code_reads (VariableKind.ofCode_code _)) .nil))) v.complete h

theorem Property.reads {p : Property} (h : p.Renders j) : Reads (Property.read room) room j p := by
  refine reads_record _ (.cons required_reads (.cons (present_reads fun s hs => ?_)
    (.cons text_reads (.cons text_reads (.cons text_reads (.cons text_reads (.cons text_reads
      (.cons text_reads (.cons text_reads (.cons text_reads .nil)))))))))) p.complete h
  rw [hs]
  exact reads_string? s

theorem Binding.reads {b : Binding} (h : b.Renders j) : Reads (Binding.read room) room j b :=
  reads_record _ (.cons required_reads (.cons text_reads (.cons text_reads (.cons text_reads .nil))))
    b.complete h

theorem Slot.reads {s : Slot} (h : s.Renders j) : Reads (Slot.read room) room j s :=
  reads_record _ (.cons required_reads (.cons text_reads .nil)) s.complete h

theorem TriggerProperty.reads {p : TriggerProperty} (h : p.Renders j) :
    Reads (TriggerProperty.read room) room j p :=
  reads_record _ (.cons required_reads (.cons text_reads (.cons text_reads (.cons text_reads
    (.cons text_reads (.cons text_reads (.cons text_reads .nil))))))) p.complete h

end

/-! ## Triggers and actions -/

/-- The members of a trigger, given what writes the triggers below it. -/
def Trigger.cells (t : Trigger) (ts : Forest Trigger) (Below : List Json → Prop) :
    List (Cell (Tree Trigger)) :=
  [requiredCell "keyType" t.keyType fun s => relabel fun t => { t with keyType := s },
    codeCell "then" t.mode fun m => relabel fun t => { t with mode := m },
    textCell "name" t.name fun s => relabel fun t => { t with name := s },
    versionCell t.version fun i => relabel fun t => { t with version := i },
    recordsCell "properties" TriggerProperty.Renders t.properties fun ps => relabel fun t =>
      { t with properties := ps },
    recordsCell "data" Binding.Renders t.data fun bs => relabel fun t => { t with data := bs },
    listCell "triggers" Below ts replant]

mutual

/-- The value writes the trigger and the triggers below it. -/
def triggerRenders : Tree Trigger → Json → Prop
  | .node t ts => Cell.Renders (t.cells ts (triggersRender ts)) default

def triggersRender : List (Tree Trigger) → List Json → Prop
  | [] => fun js => js = []
  | t :: ts => fun js => ∃ j js', js = j :: js' ∧ triggerRenders t j ∧ triggersRender ts js'

end

def Action.cells (a : Action) : List (Cell Action) :=
  [textCell "key" a.key fun s a => { a with key := s },
    requiredCell "event" a.event fun s a => { a with event := s },
    listCell "triggers" (triggersRender a.triggers) a.triggers fun ts a => { a with triggers := ts }]

def Action.Renders (a : Action) : Json → Prop := Cell.Renders a.cells default

theorem Trigger.complete (t : Trigger) (ts : Forest Trigger) (Below : List Json → Prop) :
    Cell.Complete (t.cells ts Below) default (.node t ts) where
  nodup := by simp [cells, requiredCell, textCell, codeCell, versionCell, recordsCell, listCell]
  commute := by
    simp only [cells, requiredCell, textCell, codeCell, versionCell, recordsCell, listCell,
      List.pairwise_cons, List.forall_mem_cons, List.not_mem_nil, false_implies, implies_true,
      Cell.Commute, List.Pairwise.nil, and_true]
    and_intros
    all_goals
      rintro ⟨a, us⟩
      rfl
  whole := by
    simp only [cells, requiredCell, textCell, codeCell, versionCell, recordsCell, listCell, default,
      List.foldl, relabel, replant]

theorem Action.complete (a : Action) : Cell.Complete a.cells default a where
  nodup := by simp [cells, requiredCell, textCell, listCell]
  commute := by simp [cells, requiredCell, textCell, listCell, Cell.Commute]
  whole := by simp only [cells, requiredCell, textCell, listCell, default, List.foldl]

section

variable {room : Nat} {j : Json}

theorem Trigger.fields_read {below : Node → Json.Reading (Tree Trigger)} (t : Trigger)
    {ts : Forest Trigger} {Below : List Json → Prop}
    (h : ∀ js, Below js → Reads (readList room below) room (.array js) ts) :
    List.Forall₂ (Field.Reads room) (Trigger.fields room below) (t.cells ts Below) := by
  exact .cons required_reads (.cons (code_reads (ThenMode.ofCode_code _)) (.cons text_reads
    (.cons version_reads (.cons (records_reads TriggerProperty.reads)
      (.cons (records_reads Binding.reads) (.cons (list_reads h) .nil))))))

/-- Where there is no room for a list, what reads its items makes no difference. -/
theorem reads_list_noRoom {read : Nat → Node → Json.Reading α} {js : List Json} {xs : List α}
    (h : ∀ room, List.Forall₂ (Reads (read room) room) js xs) :
    Reads (readList 0 noRoom) 0 (.array js) xs :=
  reads_list_of_pos (legible_of_forall₂ (h 0)) fun hpos => absurd hpos (Nat.lt_irrefl 0)

theorem Trigger.reads {t : Trigger} {ts : Forest Trigger} {Below : List Json → Prop}
    (hbelow : ∀ js, Below js → ∀ room, List.Forall₂ (Reads (Trigger.read room) room) js ts)
    (h : Cell.Renders (t.cells ts Below) default j) (room : Nat) :
    Reads (Trigger.read room) room j (.node t ts) := by
  match room with
  | 0 =>
    exact reads_record _ (t.fields_read fun js hjs => reads_list_noRoom (hbelow js hjs))
      (t.complete ts Below) h
  | 1 =>
    exact reads_record _ (t.fields_read fun js hjs => reads_list_noRoom (hbelow js hjs))
      (t.complete ts Below) h
  | room + 2 =>
    exact reads_record _ (t.fields_read fun js hjs => reads_list (hbelow js hjs room))
      (t.complete ts Below) h

theorem triggers_read {ts : Forest Trigger} {js : List Json} (h : triggersRender ts js)
    (room : Nat) : List.Forall₂ (Reads (Trigger.read room) room) js ts := by
  induction ts using Forest.induction generalizing js room with
  | nil =>
    rw [triggersRender] at h
    subst h
    exact .nil
  | cons t ts rest ih ih' =>
    rw [triggersRender] at h
    obtain ⟨j, js, rfl, hj, hjs⟩ := h
    rw [triggerRenders] at hj
    exact .cons (Trigger.reads (fun js hjs room => ih hjs room) hj room) (ih' hjs room)

theorem Action.reads {a : Action} (h : a.Renders j) : Reads (Action.read room) room j a := by
  have htriggers : ∀ js, triggersRender a.triggers js → Reads
      (readList (room - 1) (Trigger.read (room - 1 - 1))) (room - 1) (.array js) a.triggers :=
    fun js hjs => reads_list (triggers_read hjs _)
  exact reads_record _ (.cons text_reads (.cons required_reads
    (.cons (list_reads htriggers) .nil))) a.complete h

end

/-! ## Blocks and documents -/

/-- The slot of a block as it is read: two texts stand for none. -/
def tidySlot (slot : Option String) : Option String := slot.filter fun s => !s.isEmpty && s != "null"

/-- The block with its slot as it is read. -/
def Block.tidy (b : Block) : Block := { b with slot := tidySlot b.slot }

/-- The document with the slots of its blocks as they are read. -/
def tidy (d : Document) : Document := { d with blocks := Forest.relabel Block.tidy d.blocks }

/-- The members of a block, given what writes the blocks inside it. -/
def Block.cells (b : Block) (ts : Forest Block) (Inside : List Json → Prop) :
    List (Cell (Tree Block)) :=
  [requiredCell "keyType" b.keyType fun s => relabel fun b => { b with keyType := s },
    requiredCell "key" b.key fun s => relabel fun b => { b with key := s },
    textCell "visibilityKey" b.visibilityKey fun s => relabel fun b => { b with visibilityKey := s },
    presentCell "slot" b.slot (tidySlot b.slot) fun s => relabel fun b => { b with slot := s },
    versionCell b.version fun i => relabel fun b => { b with version := i },
    recordsCell "properties" Property.Renders b.properties fun ps => relabel fun b =>
      { b with properties := ps },
    recordsCell "data" Binding.Renders b.data fun ds => relabel fun b => { b with data := ds },
    recordsCell "slots" Slot.Renders b.slots fun ss => relabel fun b => { b with slots := ss },
    recordsCell "actions" Action.Renders b.actions fun as => relabel fun b =>
      { b with actions := as },
    listCell "blocks" Inside (Forest.relabel Block.tidy ts) replant]

mutual

/-- The value writes the block and the blocks inside it. -/
def blockRenders : Tree Block → Json → Prop
  | .node b ts => Cell.Renders (b.cells ts (blocksRender ts)) default

def blocksRender : List (Tree Block) → List Json → Prop
  | [] => fun js => js = []
  | t :: ts => fun js => ∃ j js', js = j :: js' ∧ blockRenders t j ∧ blocksRender ts js'

end

def cells (d : Document) : List (Cell Document) :=
  [textCell "$schema" d.schema fun s d => { d with schema := s },
    textCell "name" d.name fun s d => { d with name := s },
    textCell "route" d.route fun s d => { d with route := s },
    codeCell "type" d.kind fun k d => { d with kind := k },
    flagCell "isStarter" d.isStarter fun b d => { d with isStarter := b },
    recordsCell "variables" Variable.Renders d.vars fun vs d => { d with vars := vs },
    listCell "blocks" (blocksRender d.blocks) d.tidy.blocks fun bs d => { d with blocks := bs }]

/-- The value writes the document: the members of every object come in any order, and those that
have their default value may be missing. -/
def Renders (d : Document) : Json → Prop := Cell.Renders d.cells default

theorem Block.complete (b : Block) (ts : Forest Block) (Inside : List Json → Prop) :
    Cell.Complete (b.cells ts Inside) default (.node b.tidy (Forest.relabel Block.tidy ts)) where
  nodup := by simp [cells, requiredCell, textCell, presentCell, versionCell, recordsCell, listCell]
  commute := by
    simp only [cells, requiredCell, textCell, presentCell, versionCell, recordsCell, listCell,
      List.pairwise_cons, List.forall_mem_cons, List.not_mem_nil, false_implies, implies_true,
      Cell.Commute, List.Pairwise.nil, and_true]
    and_intros
    all_goals
      rintro ⟨a, us⟩
      rfl
  whole := by
    simp only [cells, requiredCell, textCell, presentCell, versionCell, recordsCell, listCell,
      default, List.foldl, relabel, replant, Block.tidy]

theorem complete (d : Document) : Cell.Complete d.cells default d.tidy where
  nodup := by simp [cells, textCell, codeCell, flagCell, recordsCell, listCell]
  commute := by simp [cells, textCell, codeCell, flagCell, recordsCell, listCell, Cell.Commute]
  whole := by simp only [cells, textCell, codeCell, flagCell, recordsCell, listCell, default,
    List.foldl, tidy]

section

variable {room : Nat} {j : Json}

theorem readSlot_string (s : String) : Reads readSlot room (.string s) (tidySlot (some s)) where
  legible _ h := nomatch h
  read_ofJson := (Json.fitted_zero room (tidySlot (some s))).symm

theorem Block.fields_read {inside : Node → Json.Reading (Tree Block)} (b : Block)
    {ts : Forest Block} {Inside : List Json → Prop}
    (h : ∀ js, Inside js →
      Reads (readList room inside) room (.array js) (Forest.relabel Block.tidy ts)) :
    List.Forall₂ (Field.Reads room) (Block.fields room inside) (b.cells ts Inside) := by
  exact .cons required_reads (.cons required_reads (.cons text_reads
    (.cons (present_reads fun s hs => hs ▸ readSlot_string s) (.cons version_reads
      (.cons (records_reads Property.reads) (.cons (records_reads Binding.reads)
        (.cons (records_reads Slot.reads) (.cons (records_reads Action.reads)
          (.cons (list_reads h) .nil)))))))))

theorem Block.reads {b : Block} {ts : Forest Block} {Inside : List Json → Prop}
    (hinside : ∀ js, Inside js → ∀ room,
      List.Forall₂ (Reads (Block.read room) room) js (Forest.relabel Block.tidy ts))
    (h : Cell.Renders (b.cells ts Inside) default j) (room : Nat) :
    Reads (Block.read room) room j (.node b.tidy (Forest.relabel Block.tidy ts)) := by
  match room with
  | 0 =>
    exact reads_record _ (b.fields_read fun js hjs => reads_list_noRoom (hinside js hjs))
      (b.complete ts Inside) h
  | 1 =>
    exact reads_record _ (b.fields_read fun js hjs => reads_list_noRoom (hinside js hjs))
      (b.complete ts Inside) h
  | room + 2 =>
    exact reads_record _ (b.fields_read fun js hjs => reads_list (hinside js hjs room))
      (b.complete ts Inside) h

theorem blocks_read {ts : Forest Block} {js : List Json} (h : blocksRender ts js) (room : Nat) :
    List.Forall₂ (Reads (Block.read room) room) js (Forest.relabel Block.tidy ts) := by
  induction ts using Forest.induction generalizing js room with
  | nil =>
    rw [blocksRender] at h
    subst h
    exact .nil
  | cons b ts rest ih ih' =>
    rw [blocksRender] at h
    obtain ⟨j, js, rfl, hj, hjs⟩ := h
    rw [blockRenders] at hj
    exact .cons (Block.reads (fun js hjs room => ih hjs room) hj room) (ih' hjs room)

/-- **Reading a document.** Every value that writes a document is read as the document. -/
theorem reads {d : Document} (h : d.Renders j) : Reads (read room) room j d.tidy := by
  have hblocks : ∀ js, blocksRender d.blocks js → Reads
      (readList (room - 1) (Block.read (room - 1 - 1))) (room - 1) (.array js) d.tidy.blocks :=
    fun js hjs => reads_list (blocks_read hjs _)
  exact reads_record _ (.cons text_reads (.cons text_reads (.cons text_reads
    (.cons (code_reads (FrameKind.ofCode_code _)) (.cons flag_reads
      (.cons (records_reads Variable.reads) (.cons (list_reads hblocks) .nil))))))) d.complete h

end

/-! ## What is printed -/

section

variable {blank : ρ} {cells : List (Cell ρ)} {ms : List (String × Json)} {name : String}

theorem listed_nonEmpty {s : String} {set : String → ρ → ρ} (hput : set "" blank = blank)
    (h : Cell.Listed blank cells ms) :
    Cell.Listed blank (textCell name s set :: cells) (nonEmpty name s ++ ms) := by
  by_cases hs : s = ""
  · subst hs
    exact .missing rfl hput h
  · rw [nonEmpty, if_neg (by simpa using hs)]
    exact .given rfl h

theorem listed_nonEmpty_last {s : String} {set : String → ρ → ρ} (hput : set "" blank = blank) :
    Cell.Listed blank [textCell name s set] (nonEmpty name s) := by
  have hlisted : Cell.Listed blank [textCell name s set] (nonEmpty name s ++ []) :=
    listed_nonEmpty hput .nil
  rwa [List.append_nil] at hlisted

theorem listed_present {text? value : Option String} {set : Option String → ρ → ρ}
    (hput : text? = none → set value blank = blank) (h : Cell.Listed blank cells ms) :
    Cell.Listed blank (presentCell name text? value set :: cells) (present name text? ++ ms) := by
  cases text? with
  | none => exact .missing rfl (hput rfl) h
  | some s => exact .given ⟨s, rfl, rfl⟩ h

theorem forall₂_map {Renders : α → Json → Prop} {toJson : α → Json}
    (h : ∀ x, Renders x (toJson x)) (xs : List α) :
    List.Forall₂ (fun j x => Renders x j) (xs.map toJson) xs :=
  List.forall₂_map_left_iff.2 (List.forall₂_same.2 fun x _ => h x)

/-- A list of records is there. -/
theorem listed_records {Renders : α → Json → Prop} {toJson : α → Json}
    (h : ∀ x, Renders x (toJson x)) {xs : List α} {set : List α → ρ → ρ}
    (hlisted : Cell.Listed blank cells ms) :
    Cell.Listed blank (recordsCell name Renders xs set :: cells)
      ((name, .array (xs.map toJson)) :: ms) :=
  .given ⟨_, rfl, forall₂_map h xs⟩ hlisted

end

theorem Variable.renders_toJson (v : Variable) : v.Renders v.toJson :=
  ⟨_, rfl, Cell.Listed.writes (.given rfl (.given rfl (.given rfl .nil))) v.complete.nodup⟩

theorem Property.renders_toJson (p : Property) : p.Renders p.toJson := by
  refine ⟨_, rfl, Cell.Listed.writes ?_ p.complete.nodup⟩
  simp only [List.append_assoc, List.cons_append, List.nil_append]
  exact .given rfl (listed_present (fun h => h ▸ rfl) (.given rfl (.given rfl (.given rfl
    (.given rfl (listed_nonEmpty rfl (listed_nonEmpty rfl (listed_nonEmpty rfl
      (listed_nonEmpty_last rfl)))))))))

theorem Binding.renders_toJson (b : Binding) : b.Renders b.toJson :=
  ⟨_, rfl, Cell.Listed.writes (.given rfl (.given rfl (.given rfl (listed_nonEmpty_last rfl))))
    b.complete.nodup⟩

theorem Slot.renders_toJson (s : Slot) : s.Renders s.toJson :=
  ⟨_, rfl, Cell.Listed.writes (.given rfl (listed_nonEmpty_last rfl)) s.complete.nodup⟩

theorem TriggerProperty.renders_toJson (p : TriggerProperty) : p.Renders p.toJson := by
  refine ⟨_, rfl, Cell.Listed.writes ?_ p.complete.nodup⟩
  simp only [List.append_assoc, List.cons_append, List.nil_append]
  exact .given rfl (.given rfl (.given rfl (listed_nonEmpty rfl (listed_nonEmpty rfl
    (listed_nonEmpty rfl (listed_nonEmpty_last rfl))))))

theorem Trigger.renders_toJson (t : Trigger) {ts : Forest Trigger} {js : List Json}
    (h : triggersRender ts js) : triggerRenders (.node t ts) (t.toJson js) :=
  ⟨_, rfl, Cell.Listed.writes (.given rfl (.given rfl (.given rfl (.given rfl
    (listed_records TriggerProperty.renders_toJson (listed_records Binding.renders_toJson
      (.given ⟨js, rfl, h⟩ .nil))))))) (t.complete ts _).nodup⟩

theorem triggersRender_toJson (ts : Forest Trigger) : triggersRender ts (triggersToJson ts) := by
  induction ts using Forest.induction with
  | nil => rfl
  | cons t ts rest ih ih' => exact ⟨_, _, rfl, t.renders_toJson ih, ih'⟩

theorem Action.renders_toJson (a : Action) : a.Renders a.toJson :=
  ⟨_, rfl, Cell.Listed.writes (.given rfl (.given rfl
    (.given ⟨_, rfl, triggersRender_toJson a.triggers⟩ .nil))) a.complete.nodup⟩

theorem Block.renders_toJson (b : Block) {ts : Forest Block} {js : List Json}
    (h : blocksRender ts js) : blockRenders (.node b ts) (b.toJson js) := by
  refine ⟨_, rfl, Cell.Listed.writes ?_ (b.complete ts (blocksRender ts)).nodup⟩
  simp only [List.cons_append, List.nil_append]
  have hslot : b.slot = none → relabel (fun a : Block => { a with slot := tidySlot b.slot })
      default = (default : Tree Block) := fun hnone => by rw [hnone]; rfl
  exact .given rfl (.given rfl (.given rfl (listed_present hslot (.given rfl
    (listed_records Property.renders_toJson (listed_records Binding.renders_toJson
      (listed_records Slot.renders_toJson (listed_records Action.renders_toJson
        (.given ⟨js, rfl, h⟩ .nil)))))))))

theorem blocksRender_toJson (ts : Forest Block) : blocksRender ts (blocksToJson ts) := by
  induction ts using Forest.induction with
  | nil => rfl
  | cons b ts rest ih ih' => exact ⟨_, _, rfl, b.renders_toJson ih, ih'⟩

theorem renders_toJson (d : Document) : d.Renders d.toJson :=
  ⟨_, rfl, Cell.Listed.writes (.given rfl (.given rfl (.given rfl (.given rfl (.given rfl
    (listed_records Variable.renders_toJson
      (.given ⟨_, rfl, blocksRender_toJson d.blocks⟩ .nil))))))) d.complete.nodup⟩

/-- **Reading a text.** A text of a value that writes a document is read as the document, if the value
does not nest too deep. -/
theorem parse_of_renders {d : Document} {j : Json} {text : String} (h : d.Renders j)
    (hscan : j.Legible → scan text = (ofJson j, some [])) :
    parse text = Json.fitted Json.nestingRoom j.nesting d.tidy := by
  have hreads : Reads (read Json.nestingRoom) Json.nestingRoom j d.tidy := reads h
  rw [parse, readText_of_scan _ (hscan hreads.legible), hreads.read_ofJson]

/-- **Reading what was printed** gives the document back, if it does not nest too deep. -/
theorem parse_print (d : Document) :
    parse d.print = Json.fitted Json.nestingRoom d.toJson.nesting d.tidy :=
  parse_of_renders d.renders_toJson scan_pretty

end Document

end FrameTree
