import FrameTree.Proofs.RoundTrip
import FrameTree.Proofs.Runs

/-!
# What flattening uses up

Flattening calls the validator at most once, and issues ids one after the other. Both are entered
into the ledger, which outlives an error: a call with the answer of the validator, which decides how
flattening goes on, and the number of ids.

**Entities** (`Document.entities`). Everything in a document that gets an id, by the name it goes
by, in the order in which the ids are issued. It is read off the document alone.

**Stops** (`Document.agenda`). The entities, with the broken rules between them, each where the
walk checks it: the slot of a block right after the block, the chain of a trigger right after the
trigger, data after all parts of their owner. The walk ends at the first broken rule, and the ids
issued are those of the entities before it (`Flattener.flatten_of_broken`).

**Census** (`Frame.census`). The entities of a frame with their ids, block after block. In the frame
of a document they have the next ids of the issuer in order (`Document.census_placed`).

Main result: `Flattener.accounted`.
-/

namespace FrameTree

variable {ι α : Type}

/-! ## Entities -/

/-- What gets an id. -/
inductive Entity where
  | frame
  | var (key : String)
  | block (key : String)
  | property (key : String)
  | data (key : String)
  | slot (name : String)
  | action (event : String)
  | trigger (name : String)
  | triggerProperty (key : String)
  | triggerData (key : String)
deriving DecidableEq, Repr

namespace Document

def Trigger.partEntities (t : Trigger) : List Entity :=
  t.properties.map (fun p => .triggerProperty p.key) ++ t.data.map fun b => .triggerData b.key

def Trigger.entities (t : Trigger) : List Entity := .trigger t.name :: t.partEntities

/-- An action and its triggers in pre-order. -/
def Action.entities (a : Action) : List Entity :=
  .action a.event :: (Forest.labels a.triggers).flatMap Trigger.entities

def Block.partEntities (b : Block) : List Entity :=
  b.properties.map (fun p => .property p.key) ++
    (b.data.map (fun d => .data d.key) ++ b.slots.map fun s => .slot s.name)

/-- A block without the blocks inside it: its actions come before its parts. -/
def Block.entities (b : Block) : List Entity :=
  .block b.key :: (b.actions.flatMap Action.entities ++ b.partEntities)

/-- Everything in a document that gets an id: the frame, its variables, and the blocks in
pre-order. -/
def entities (d : Document) : List Entity :=
  .frame :: (d.vars.map (fun v => .var v.key) ++ (Forest.labels d.blocks).flatMap Block.entities)

/-! ### Their number -/

theorem Trigger.length_entities (t : Trigger) : t.entities.length = t.idCount := by
  simp [Trigger.entities, Trigger.partEntities, Trigger.idCount, Nat.add_comm]

theorem Action.length_entities (a : Action) : a.entities.length = a.idCount := by
  simp [Action.entities, Action.idCount, Forest.weight, List.length_flatMap,
    Trigger.length_entities, Nat.add_comm]

theorem Block.length_entities (b : Block) : b.entities.length = b.idCount := by
  simp [Block.entities, Block.partEntities, Block.idCount, List.length_flatMap,
    Action.length_entities, Nat.add_comm]

theorem length_entities (d : Document) : d.entities.length = d.idCount := by
  simp [entities, idCount, Forest.weight, List.length_flatMap, Block.length_entities, Nat.add_comm]

theorem Trigger.sum_idCount (ts : List Trigger) :
    (ts.map Trigger.idCount).sum =
      ts.length + (ts.flatMap Trigger.properties).length + (ts.flatMap Trigger.data).length := by
  induction ts with
  | nil => rfl
  | cons t ts ih =>
    simp only [List.map_cons, List.sum_cons, ih, Trigger.idCount, List.length_cons,
      List.flatMap_cons, List.length_append]
    omega

theorem Action.sum_idCount (actions : List Action) :
    (actions.map Action.idCount).sum =
      actions.length +
        ((actions.flatMap fun a => Forest.labels a.triggers).map Trigger.idCount).sum := by
  induction actions with
  | nil => rfl
  | cons a actions ih =>
    simp only [List.map_cons, List.sum_cons, ih, Action.idCount, Forest.weight, List.length_cons,
      List.flatMap_cons, List.map_append, List.sum_append_nat]
    omega

theorem Block.sum_idCount (blocks : List Block) :
    (blocks.map Block.idCount).sum =
      blocks.length + ((blocks.flatMap Block.actions).map Action.idCount).sum +
        (blocks.flatMap Block.properties).length + (blocks.flatMap Block.data).length +
        (blocks.flatMap Block.slots).length := by
  induction blocks with
  | nil => rfl
  | cons b blocks ih =>
    simp only [List.map_cons, List.sum_cons, ih, Block.idCount, List.length_cons,
      List.flatMap_cons, List.map_append, List.sum_append_nat, List.length_append]
    omega

end Document

/-! ## Stops -/

/-- A stop of the walk: an entity gets its id, or a rule is found broken. -/
inductive Stop where
  | entity (x : Entity)
  | broken (e : Error)
deriving DecidableEq, Repr

namespace Stop

def event : Stop → Event
  | .entity _ => .issued
  | .broken e => .broken e

def entity? : Stop → Option Entity
  | .entity x => some x
  | .broken _ => none

/-- The entities among some stops. -/
def entities (stops : List Stop) : List Entity := stops.filterMap entity?

@[simp] theorem entities_cons_entity (x : Entity) (stops : List Stop) :
    entities (.entity x :: stops) = x :: entities stops :=
  List.filterMap_cons_some rfl

@[simp] theorem entities_append (stops stops' : List Stop) :
    entities (stops ++ stops') = entities stops ++ entities stops' :=
  List.filterMap_append

@[simp] theorem entities_map_entity (xs : List Entity) : entities (xs.map entity) = xs := by
  simp [entities, List.filterMap_map, Function.comp_def, entity?]

@[simp] theorem entities_map_broken (errors : List Error) : entities (errors.map broken) = [] := by
  simp [entities, List.filterMap_map, Function.comp_def, entity?]

@[simp] theorem entities_flatMap (f : α → List Stop) (xs : List α) :
    entities (xs.flatMap f) = xs.flatMap fun x => entities (f x) :=
  List.filterMap_flatMap

@[simp] theorem broken_mem_map_iff {e : Error} {errors : List Error} :
    .broken e ∈ errors.map broken ↔ e ∈ errors := by
  simp

/-- All stops are entities, or there is a first broken rule. -/
theorem all_or_first (stops : List Stop) :
    (∃ done : List Entity, stops = done.map entity) ∨
      ∃ (done : List Entity) (e : Error) (rest : List Stop),
        stops = done.map entity ++ .broken e :: rest := by
  induction stops with
  | nil => exact .inl ⟨[], rfl⟩
  | cons stop stops ih =>
    cases stop with
    | broken e => exact .inr ⟨[], e, stops, rfl⟩
    | entity x =>
      obtain ⟨done, rfl⟩ | ⟨done, e, rest, rfl⟩ := ih
      · exact .inl ⟨x :: done, rfl⟩
      · exact .inr ⟨x :: done, e, rest, rfl⟩

/-- Entities issue one id each. -/
theorem play_append (a : α) (done : List Entity) (stops : List Stop) (n : Nat) :
    play a ((done.map entity ++ stops).map event) n =
      play a (stops.map event) (n + done.length) := by
  induction done generalizing n with
  | nil => rfl
  | cons x done ih =>
    show play a ((done.map entity ++ stops).map event) (n + 1) = _
    rw [ih, List.length_cons, Nat.add_assoc, Nat.add_comm 1]

end Stop

namespace Document

def Trigger.agenda (vars : List String) (v : Visit Trigger) : List Stop :=
  .entity (.trigger v.label.name) :: ((chainFaults v.label v.below).map .broken ++
    (v.label.partEntities.map .entity ++
      (bindingFaults vars (.trigger v.label.name) v.label.data).map .broken))

def Action.agenda (vars : List String) (a : Action) : List Stop :=
  .entity (.action a.event) :: (Forest.visits none a.triggers).flatMap (Trigger.agenda vars)

def Block.agenda (settings : Settings) (vars : List String) (v : Visit Block) : List Stop :=
  .entity (.block v.label.key) :: ((slotFaults settings v.parent v.label).map .broken ++
    (v.label.actions.flatMap (Action.agenda vars) ++ (v.label.partEntities.map .entity ++
      (bindingFaults vars (.block v.label.key) v.label.data).map .broken)))

/-- The frame, its variables and its blocks, with what is broken on the way. -/
def walkAgenda (settings : Settings) (d : Document) : List Stop :=
  .entity .frame :: ((d.vars.map fun v => Entity.var v.key).map .entity ++
    (Forest.visits none d.blocks).flatMap (Block.agenda settings (d.vars.map Variable.key)))

/-- All stops of the walk through a document. The first root block is looked at before anything gets
an id, the keys of the blocks after everything has one. -/
def agenda (settings : Settings) (d : Document) : List Stop :=
  (rootFaults settings d).map .broken ++
    (d.walkAgenda settings ++ (keyFaults d).map .broken)

/-- Without its variable the profile has two broken rules, the first of them after seven
entities. -/
example :
    agenda .standard { profile with vars := [] } =
      [.entity .frame, .entity (.block "column"), .entity (.slot "header"),
        .entity (.slot "content"), .entity (.block "text"), .entity (.property "color"),
        .entity (.data "text"), .broken (.unresolvedVariable (.block "text") "text" "title"),
        .entity (.block "button"), .entity (.action "onClick"), .entity (.trigger "open"),
        .entity (.triggerData "text"),
        .broken (.unresolvedVariable (.trigger "open") "text" "title"),
        .entity (.trigger "stop")] := by
  decide

/-! ### They are the events of the walk -/

theorem Trigger.events_agenda (vars : List String) (v : Visit Trigger) :
    (Trigger.agenda vars v).map Stop.event = Trigger.events vars v := by
  simp [Trigger.agenda, Trigger.events, Trigger.partEntities, Function.comp_def, Stop.event]

theorem Action.events_agenda (vars : List String) (a : Action) :
    (Action.agenda vars a).map Stop.event = Action.events vars a := by
  simp [Action.agenda, Action.events, List.map_flatMap, Trigger.events_agenda, Stop.event]

theorem Block.events_agenda (settings : Settings) (vars : List String) (v : Visit Block) :
    (Block.agenda settings vars v).map Stop.event = Block.events settings vars v := by
  simp [Block.agenda, Block.events, Block.partEntities, List.map_flatMap, Action.events_agenda,
    Function.comp_def, Stop.event]

theorem events_agenda (settings : Settings) (d : Document) :
    (d.agenda settings).map Stop.event = d.events settings := by
  simp [agenda, walkAgenda, events, List.map_flatMap, Block.events_agenda, Function.comp_def,
    Stop.event]

/-! ### Their entities are those of the document -/

theorem Trigger.entities_agenda (vars : List String) (v : Visit Trigger) :
    Stop.entities (Trigger.agenda vars v) = v.label.entities := by
  simp [Trigger.agenda, Trigger.entities]

theorem Action.entities_agenda (vars : List String) (a : Action) :
    Stop.entities (Action.agenda vars a) = a.entities := by
  simp [Action.agenda, Action.entities, Trigger.entities_agenda,
    Forest.labels_eq_visits none a.triggers, List.flatMap_map]

theorem Block.entities_agenda (settings : Settings) (vars : List String) (v : Visit Block) :
    Stop.entities (Block.agenda settings vars v) = v.label.entities := by
  simp [Block.agenda, Block.entities, Action.entities_agenda]

theorem entities_walkAgenda (settings : Settings) (d : Document) :
    Stop.entities (d.walkAgenda settings) = d.entities := by
  simp only [walkAgenda, entities, Stop.entities_cons_entity, Stop.entities_append,
    Stop.entities_map_entity, Stop.entities_flatMap, Block.entities_agenda,
    Forest.labels_eq_visits none d.blocks, List.flatMap_map]

theorem entities_agenda (settings : Settings) (d : Document) :
    Stop.entities (d.agenda settings) = d.entities := by
  simp [agenda, entities_walkAgenda]

end Document

/-! ### Which rules are broken where -/

/-- The errors of the rules about single blocks and triggers. -/
inductive Error.OfNode : Error → Prop
  | slot (key slot : String) : OfNode (.invalidSlot key slot)
  | chain (name : String) : OfNode (.invalidChain name)
  | binding (owner : Owner) (key value : String) : OfNode (.unresolvedVariable owner key value)

namespace Document

variable {settings : Settings} {vars : List String} {d : Document} {e : Error}

theorem ofNode_of_mem_bindingFaults {owner : Owner} {data : List Binding}
    (h : e ∈ bindingFaults vars owner data) : e.OfNode := by
  obtain ⟨b, -, rfl⟩ := List.mem_map.1 h
  exact .binding owner b.key b.value

theorem ofNode_of_mem_chainFaults {t : Trigger} {below : Nat} (h : e ∈ chainFaults t below) :
    e.OfNode := by
  rw [chainFaults] at h
  split at h
  · cases List.mem_singleton.1 h
    exact .chain t.name
  · cases h

theorem ofNode_of_mem_slotFaults {parent : Option Block} {b : Block}
    (h : e ∈ slotFaults settings parent b) : e.OfNode := by
  cases parent with
  | none => cases h
  | some p =>
    rw [slotFaults] at h
    split at h
    · cases h
    · cases List.mem_singleton.1 h
      exact .slot b.key _

theorem Trigger.ofNode_of_mem_agenda {v : Visit Trigger}
    (h : .broken e ∈ Trigger.agenda vars v) : e.OfNode := by
  simp only [Trigger.agenda, List.mem_cons, List.mem_append, List.mem_map, reduceCtorEq,
    Stop.broken.injEq, exists_eq_right, false_or, and_false, exists_false] at h
  rcases h with h | h
  · exact ofNode_of_mem_chainFaults h
  · exact ofNode_of_mem_bindingFaults h

theorem Action.ofNode_of_mem_agenda {a : Action} (h : .broken e ∈ Action.agenda vars a) :
    e.OfNode := by
  simp only [Action.agenda, List.mem_cons, reduceCtorEq, false_or, List.mem_flatMap] at h
  obtain ⟨v, -, h⟩ := h
  exact Trigger.ofNode_of_mem_agenda h

theorem Block.ofNode_of_mem_agenda {v : Visit Block}
    (h : .broken e ∈ Block.agenda settings vars v) : e.OfNode := by
  simp only [Block.agenda, List.mem_cons, List.mem_append, List.mem_map, List.mem_flatMap,
    reduceCtorEq, Stop.broken.injEq, exists_eq_right, false_or, and_false, exists_false] at h
  rcases h with h | ⟨a, -, h⟩ | h
  · exact ofNode_of_mem_slotFaults h
  · exact Action.ofNode_of_mem_agenda h
  · exact ofNode_of_mem_bindingFaults h

theorem ofNode_of_mem_walkAgenda (h : .broken e ∈ d.walkAgenda settings) : e.OfNode := by
  simp only [walkAgenda, List.mem_cons, List.mem_append, List.mem_map, List.mem_flatMap,
    reduceCtorEq, false_or, and_false, exists_false] at h
  obtain ⟨v, -, h⟩ := h
  exact Block.ofNode_of_mem_agenda h

theorem mem_rootFaults (h : e ∈ rootFaults settings d) :
    ∃ keyType expected, e = .invalidRoot keyType expected := by
  rw [rootFaults] at h
  split at h
  · cases h
  · split at h
    · exact ⟨_, _, List.mem_singleton.1 h⟩
    · cases h

theorem mem_keyFaults (h : e ∈ keyFaults d) : ∃ keys, e = .duplicateKeys keys := by
  rw [keyFaults] at h
  split at h
  · cases h
  · exact ⟨_, List.mem_singleton.1 h⟩

theorem mem_agenda (h : .broken e ∈ d.agenda settings) :
    (∃ keyType expected, e = .invalidRoot keyType expected) ∨ e.OfNode ∨
      ∃ keys, e = .duplicateKeys keys := by
  rw [agenda, List.mem_append, List.mem_append, Stop.broken_mem_map_iff,
    Stop.broken_mem_map_iff] at h
  exact h.imp mem_rootFaults (Or.imp ofNode_of_mem_walkAgenda mem_keyFaults)

section

variable {done : List Entity} {rest : List Stop}
  (h : d.agenda settings = done.map .entity ++ .broken e :: rest)

include h

/-- The entities before a broken rule are the first ones of the document. -/
theorem prefix_of_agenda : done <+: d.entities := by
  rw [← entities_agenda settings d, h, Stop.entities_append, Stop.entities_map_entity]
  exact List.prefix_append _ _

/-- A wrong root block is found before anything gets an id. -/
theorem done_of_invalidRoot {keyType expected : String} (he : e = .invalidRoot keyType expected) :
    done = [] := by
  cases hroot : rootFaults settings d with
  | nil =>
    have hmem : .broken e ∈ d.agenda settings := by
      rw [h]
      exact List.mem_append_right _ List.mem_cons_self
    rw [agenda, hroot, List.map_nil, List.nil_append, List.mem_append,
      Stop.broken_mem_map_iff] at hmem
    rcases hmem with hmem | hmem
    · cases he ▸ ofNode_of_mem_walkAgenda hmem
    · obtain ⟨keys, hkeys⟩ := mem_keyFaults hmem
      cases he.symm.trans hkeys
  | cons e' errors =>
    rw [agenda, hroot] at h
    cases done with
    | nil => rfl
    | cons x done => cases h

/-- Repeated keys are found after everything has its id. -/
theorem done_of_duplicateKeys {keys : List String} (he : e = .duplicateKeys keys) :
    done = d.entities := by
  have hbefore : .broken e ∉ (rootFaults settings d).map Stop.broken ++ d.walkAgenda settings := by
    rw [List.mem_append, Stop.broken_mem_map_iff]
    rintro (hmem | hmem)
    · obtain ⟨keyType, expected, hroot⟩ := mem_rootFaults hmem
      cases he.symm.trans hroot
    · cases he ▸ ofNode_of_mem_walkAgenda hmem
  have hentities : Stop.entities ((rootFaults settings d).map Stop.broken ++
      d.walkAgenda settings) = d.entities := by
    rw [Stop.entities_append, Stop.entities_map_broken, List.nil_append, entities_walkAgenda]
  have hle := prefix_of_agenda h
  rw [agenda, ← List.append_assoc] at h
  obtain ⟨after, hdone, -⟩ | ⟨after, hwalk, hafter⟩ := List.append_eq_append_iff.1 h
  · -- Everything up to the keys comes before the broken rule.
    have hle' := congrArg Stop.entities hdone
    rw [Stop.entities_map_entity, Stop.entities_append, hentities] at hle'
    exact hle.eq_of_length_le (by rw [hle', List.length_append]; exact Nat.le_add_right _ _)
  · cases after with
    | nil => rw [← hentities, hwalk, List.append_nil, Stop.entities_map_entity]
    | cons stop after =>
      cases hafter
      exact absurd (hwalk ▸ List.mem_append_right _ List.mem_cons_self) hbefore

end

end Document

/-! ## Census -/

namespace Frame

def Trigger.census (t : Trigger ι) : List (Entity × ι) :=
  (.trigger t.name, t.id) :: (t.properties.map (fun p => (.triggerProperty p.key, p.id)) ++
    t.data.map fun b => (.triggerData b.key, b.id))

def Action.census (a : Action ι) : List (Entity × ι) :=
  (.action a.event, a.id) :: a.triggers.flatMap Trigger.census

/-- A block and the actions with its key. -/
def Block.census (actions : List (Action ι)) (b : Block ι) : List (Entity × ι) :=
  (.block b.key, b.id) :: ((actions.filter fun a => a.key == b.key).flatMap Action.census ++
    (b.properties.map (fun p => (.property p.key, p.id)) ++
      (b.data.map (fun d => (.data d.key, d.id)) ++ b.slots.map fun s => (.slot s.name, s.id))))

/-- Everything in a frame that has an id, together with the id. The actions stand with their
blocks. -/
def census (F : Frame ι) : List (Entity × ι) :=
  (.frame, F.id) :: (F.vars.map (fun v => (.var v.key, v.id)) ++
    F.blocks.flatMap (Block.census F.actions))

theorem Trigger.snd_census (t : Trigger ι) : t.census.map Prod.snd = t.ids := by
  rw [Trigger.census, List.map_cons, List.map_append, List.map_map, List.map_map]
  rfl

theorem Action.snd_census (a : Action ι) : a.census.map Prod.snd = a.ids := by
  rw [Action.census, List.map_cons, List.map_flatMap, Action.ids]
  simp only [Trigger.snd_census]

end Frame

namespace Document

variable (I : Issuer ι)

/-! ### In the frame of a document -/

theorem Block.key_placed (settings : Settings) (frameId : ι) (s : Spot Block) :
    (Block.placed I settings frameId s).key = s.label.key := rfl

theorem Trigger.fst_census_placed (actionId : ι) (s : Spot Trigger) :
    (Trigger.placed I actionId s).census.map Prod.fst = s.label.entities := by
  rw [Frame.Trigger.census, List.map_cons, List.map_append, List.map_map, List.map_map]
  exact congrArg (_ :: ·) (congrArg₂ (· ++ ·)
    (I.map_parts (TriggerProperty.flat _) (fun _ _ => rfl) _ _)
    (I.map_parts (Binding.flatInTrigger _) (fun _ _ => rfl) _ _))

theorem Action.fst_census_placed (frameId : ι) (key : String) (n : Nat) (a : Action) :
    (a.placed I frameId key n).census.map Prod.fst = a.entities := by
  rw [Frame.Action.census, List.map_cons, List.map_flatMap]
  show _ :: ((Forest.labels (a.spots (n + 1))).map (Trigger.placed I (I.id n))).flatMap _ = _
  simp only [List.flatMap_map, Trigger.fst_census_placed]
  rw [Action.entities, ← a.relabel_spots (n + 1), Forest.labels_relabel, List.flatMap_map]
  rfl

section

variable {I} {settings : Settings} {n : Nat} {d : Document}
  (hkeys : ((Forest.labels d.blocks).map Block.key).Nodup) {s : Spot Block}
  (hs : s ∈ Forest.labels (d.spots n))

include hkeys hs

theorem Block.fst_census_placed :
    (Frame.Block.census (d.placed I settings n).actions
      (Block.placed I settings (I.id n) s)).map Prod.fst = s.label.entities := by
  have hactions : (Block.placedActions I (I.id n) s).map (fun a => a.census.map Prod.fst) =
      s.label.actions.map Action.entities :=
    map_consecutive fun m a _ _ _ => Action.fst_census_placed I (I.id n) s.label.key m a
  rw [Frame.Block.census, Block.key_placed, Rebuild.filter_actions hkeys hs, List.map_cons,
    List.map_append, List.map_flatMap, List.flatMap_def, hactions, ← List.flatMap_def]
  simp only [List.map_append, List.map_map]
  exact congrArg (_ :: ·) (congrArg (_ ++ ·) (congrArg₂ (· ++ ·)
    (I.map_parts (Property.flat _) (fun _ _ => rfl) _ _) (congrArg₂ (· ++ ·)
      (I.map_parts (Binding.flatInBlock _) (fun _ _ => rfl) _ _)
      (I.map_parts (Slot.flat _) (fun _ _ => rfl) _ _))))

theorem Block.snd_census_placed :
    (Frame.Block.census (d.placed I settings n).actions
      (Block.placed I settings (I.id n) s)).map Prod.snd =
        I.stretch s.index s.label.idCount := by
  have hactions : (Block.placedActions I (I.id n) s).flatMap Frame.Action.ids =
      I.stretch (s.index + 1) (s.label.actions.map Action.idCount).sum :=
    Issuer.ids_consecutive (Action.ids_placed I (I.id n) s.label.key) _ _
  rw [Frame.Block.census, Block.key_placed, Rebuild.filter_actions hkeys hs, List.map_cons,
    List.map_append, List.map_flatMap]
  simp only [Frame.Action.snd_census, hactions, List.map_append, List.map_map]
  rw [Block.idCount, I.stretch_cons, I.stretch_append, I.stretch_append, I.stretch_append]
  exact congrArg (_ :: ·) (congrArg (_ ++ ·) (congrArg₂ (· ++ ·)
    (I.ids_parts (fun _ _ => rfl) _ _) (congrArg₂ (· ++ ·)
      (I.ids_parts (fun _ _ => rfl) _ _) (I.ids_parts (fun _ _ => rfl) _ _))))

end

/-- **The ids of a frame in order.** If no two blocks have the same key, the entities of the frame
of a document are those of the document, with the next ids. -/
theorem census_placed (settings : Settings) (n : Nat) {d : Document}
    (hkeys : ((Forest.labels d.blocks).map Block.key).Nodup) :
    (d.placed I settings n).census = d.entities.zip (I.stretch n d.entities.length) := by
  let F := d.placed I settings n
  have hblocks : F.blocks.flatMap (Frame.Block.census F.actions) =
      (Forest.labels (d.spots n)).flatMap fun s =>
        Frame.Block.census F.actions (Block.placed I settings (I.id n) s) :=
    List.flatMap_map _ _ _
  apply List.zip_of_prod
  · rw [Frame.census, hblocks, List.map_cons, List.map_append, List.map_map, List.map_flatMap,
      List.flatMap_congr fun s hs => Block.fst_census_placed hkeys hs, entities, ← labels_spots n d,
      List.flatMap_map]
    exact congrArg (_ :: ·) (congrArg (· ++ _) (I.map_parts (Variable.flat _) (fun _ _ => rfl) _ _))
  · have hids := Issuer.ids_numbered (I := I) none 0 (n + 1 + d.vars.length)
      (fun s : Spot Block => (rfl : I.stretch s.index s.label.idCount = _)) d.blocks
    rw [Frame.census, hblocks, List.map_cons, List.map_append, List.map_map, List.map_flatMap,
      List.flatMap_congr fun s hs => Block.snd_census_placed hkeys hs, length_entities, idCount,
      I.stretch_cons, I.stretch_append, ← hids]
    exact congrArg (_ :: ·) (congrArg (· ++ _) (I.ids_parts (fun _ _ => rfl) _ _))

end Document

/-! ## Accounts -/

namespace Flattener

/-- The answers that come before anything gets an id. -/
inductive Early (f : Flattener ι) (d : Document) : Fault → Prop
  | missingSchema : Early f d (.error .missingSchema)
  | tooDeep (limit : Nat) : Early f d (.error (.depthExceeded limit))
  /-- The validator has failed. -/
  | unjudged {e : Error} :
    f.validator (submitted d) d.schema = .error e → Early f d (.error e)
  | rejected (violations : List String) : Early f d (.rejected violations)
  | root (keyType expected : String) : Early f d (.error (.invalidRoot keyType expected))

/-- The walk through a document is begun. -/
structure Admits (f : Flattener ι) (d : Document) : Prop where
  schema : d.schema ≠ ""
  nesting : Nesting.Within f.settings.maxDepth d.blocks
  verdict : f.validator (submitted d) d.schema = .ok .valid

/-- What flattening ends with, if not with a frame, is in accordance with an answer of the
validator. -/
def EndsAs (x : Option Fault) : (answer : Except Error Verdict) → Prop
  | .error e => x = some (.error e)
  | .ok (.invalid violations) => x = some (.rejected violations)
  | .ok .valid => ∀ violations, x ≠ some (.rejected violations)

/-- What flattening a document enters into the ledger. -/
structure Accounted (f : Flattener ι) (d : Document) (ledger : Ledger) : Prop where
  /-- A document that names a schema and is not nested too deep is handed to the validator once, and
  what the validator answers counts. -/
  consulted : d.schema ≠ "" → Nesting.check f.settings.maxDepth d.blocks = .ok () →
    ∃ call : Consultation,
      (finalState (f.flatten d ledger)).calls = call :: ledger.calls ∧
      call.document = submitted d ∧ call.reference = d.schema ∧
      call.answer = f.validator call.document call.reference ∧
      EndsAs (Fault.answer (f.flatten d ledger)) call.answer
  unconsulted : d.schema = "" ∨ Nesting.check f.settings.maxDepth d.blocks ≠ .ok () →
    (finalState (f.flatten d ledger)).calls = ledger.calls
  early : ∀ x, Fault.answer (f.flatten d ledger) = some x → f.Early d x →
    (finalState (f.flatten d ledger)).issued = ledger.issued
  /-- Any other error is that of the first broken rule, and the entities before it have ids. -/
  stopped : ∀ e ledger', f.flatten d ledger = .error e ledger' → ¬f.Early d (.error e) →
    ∃ done rest, d.agenda f.settings = done.map .entity ++ .broken e :: rest ∧
      done <+: d.entities ∧ ledger'.issued = ledger.issued + done.length
  repeated : ∀ keys ledger', f.flatten d ledger = .error (.duplicateKeys keys) ledger' →
    ¬f.Early d (.error (.duplicateKeys keys)) →
    ledger'.issued = ledger.issued + d.entities.length
  flattened : ∀ F ledger', f.flatten d ledger = .ok (.flattened F) ledger' →
    ledger'.issued = ledger.issued + d.entities.length ∧
      F.census = d.entities.zip (f.issuer.stretch ledger.issued d.entities.length)
  total :
    let blocks := Forest.labels d.blocks
    let actions := blocks.flatMap Document.Block.actions
    let triggers := actions.flatMap fun a => Forest.labels a.triggers
    d.entities.length =
      1 + d.vars.length + blocks.length + (blocks.flatMap Document.Block.properties).length +
        (blocks.flatMap Document.Block.data).length + (blocks.flatMap Document.Block.slots).length +
        actions.length + triggers.length +
        (triggers.flatMap Document.Trigger.properties).length +
        (triggers.flatMap Document.Trigger.data).length

section

variable {f : Flattener ι} {d : Document} (ledger : Ledger)

theorem early_of_not_admits (h : ¬f.Admits d) :
    (finalState (f.flatten d ledger)).issued = ledger.issued ∧
      ∃ x, Fault.answer (f.flatten d ledger) = some x ∧ f.Early d x := by
  by_cases hs : d.schema = ""
  · rw [flatten_of_no_schema ledger hs]
    exact ⟨rfl, _, rfl, .missingSchema⟩
  by_cases hw : Nesting.Within f.settings.maxDepth d.blocks
  · rw [flatten_of_within ledger hs hw]
    cases hv : f.validator (submitted d) d.schema with
    | error e => exact ⟨rfl, _, rfl, .unjudged hv⟩
    | ok verdict =>
      cases verdict with
      | invalid violations => exact ⟨rfl, _, rfl, .rejected violations⟩
      | valid => exact absurd ⟨hs, hw, hv⟩ h
  · rw [flatten_of_too_deep ledger hs hw]
    exact ⟨rfl, _, rfl, .tooDeep _⟩

/-- Where no rule is broken, everything gets its id. -/
theorem flatten_of_done (h : f.Admits d) {done : List Entity}
    (hd : d.agenda f.settings = done.map .entity) :
    f.flatten d ledger = .ok (.flattened (d.placed f.issuer f.settings ledger.issued))
      { f.asked d ledger with issued := ledger.issued + done.length } := by
  rw [flatten_of_within ledger h.schema h.nesting, h.verdict]
  dsimp only
  rw [(Document.number_goes f.issuer f.settings ledger.issued d).run, ← Document.events_agenda, hd,
    ← List.append_nil (done.map _), Stop.play_append]
  rfl

/-- The first broken rule ends the walk. -/
theorem flatten_of_broken (h : f.Admits d) {done : List Entity} {e : Error} {rest : List Stop}
    (hd : d.agenda f.settings = done.map .entity ++ .broken e :: rest) :
    f.flatten d ledger =
      .error e { f.asked d ledger with issued := ledger.issued + done.length } := by
  rw [flatten_of_within ledger h.schema h.nesting, h.verdict]
  dsimp only
  rw [(Document.number_goes f.issuer f.settings ledger.issued d).run, ← Document.events_agenda, hd,
    Stop.play_append]
  rfl

/-- The one call of the validator, whose answer counts. -/
theorem calls_of_within (hs : d.schema ≠ "")
    (hw : Nesting.Within f.settings.maxDepth d.blocks) :
    (finalState (f.flatten d ledger)).calls = f.consultation d :: ledger.calls ∧
      EndsAs (Fault.answer (f.flatten d ledger)) (f.validator (submitted d) d.schema) := by
  rw [flatten_of_within ledger hs hw]
  cases f.validator (submitted d) d.schema with
  | error e => exact ⟨rfl, rfl⟩
  | ok verdict =>
    cases verdict with
    | invalid violations => exact ⟨rfl, rfl⟩
    | valid =>
      dsimp only
      cases d.number f.issuer f.settings ledger.issued with
      | error e m => exact ⟨rfl, nofun⟩
      | ok F m => exact ⟨rfl, nofun⟩

theorem calls_of_not_within (h : d.schema = "" ∨ ¬Nesting.Within f.settings.maxDepth d.blocks) :
    (finalState (f.flatten d ledger)).calls = ledger.calls := by
  by_cases hs : d.schema = ""
  · rw [flatten_of_no_schema ledger hs]
    rfl
  · rw [flatten_of_too_deep ledger hs (h.resolve_left hs)]
    rfl

/-- Of the broken rules that end the walk, only the one about the root comes early. -/
theorem done_of_early (h : f.Admits d) {done : List Entity} {e : Error} {rest : List Stop}
    (hd : d.agenda f.settings = done.map .entity ++ .broken e :: rest)
    (he : f.Early d (.error e)) : done = [] := by
  have hkinds := Document.mem_agenda (hd ▸ List.mem_append_right _ List.mem_cons_self)
  cases he with
  | missingSchema => obtain ⟨_, _, h⟩ | h | ⟨_, h⟩ := hkinds <;> cases h
  | tooDeep limit => obtain ⟨_, _, h⟩ | h | ⟨_, h⟩ := hkinds <;> cases h
  | unjudged hv => cases hv.symm.trans h.verdict
  | root keyType expected => exact Document.done_of_invalidRoot hd rfl

variable {ledger}

theorem issued_of_early {x : Fault} (hx : Fault.answer (f.flatten d ledger) = some x)
    (hearly : f.Early d x) : (finalState (f.flatten d ledger)).issued = ledger.issued := by
  by_cases h : f.Admits d
  · obtain ⟨done, hd⟩ | ⟨done, e, rest, hd⟩ := Stop.all_or_first (d.agenda f.settings)
    · rw [flatten_of_done ledger h hd] at hx
      cases hx
    · rw [flatten_of_broken ledger h hd] at hx ⊢
      cases hx
      rw [done_of_early h hd hearly]
      rfl
  · exact (early_of_not_admits ledger h).1

/-- An error that does not come early is that of the first broken rule. -/
theorem exists_broken {e : Error} {ledger' : Ledger} (hrun : f.flatten d ledger = .error e ledger')
    (hlate : ¬f.Early d (.error e)) :
    ∃ (done : List Entity) (rest : List Stop),
      d.agenda f.settings = done.map .entity ++ .broken e :: rest ∧
        ledger'.issued = ledger.issued + done.length := by
  have h : f.Admits d := by
    by_contra h
    obtain ⟨-, x, hx, hearly⟩ := early_of_not_admits ledger h
    rw [hrun] at hx
    cases hx
    exact hlate hearly
  obtain ⟨done, hd⟩ | ⟨done, e', rest, hd⟩ := Stop.all_or_first (d.agenda f.settings)
  · rw [flatten_of_done ledger h hd] at hrun
    cases hrun
  · rw [flatten_of_broken ledger h hd] at hrun
    cases hrun
    exact ⟨done, rest, hd, rfl⟩

end

theorem accounted_flatten (f : Flattener ι) (d : Document) (ledger : Ledger) :
    f.Accounted d ledger where
  consulted hs hcheck := by
    obtain ⟨hcalls, hends⟩ := calls_of_within ledger hs (Nesting.check_eq_ok_iff.1 hcheck)
    exact ⟨f.consultation d, hcalls, rfl, rfl, rfl, hends⟩
  unconsulted h := calls_of_not_within ledger (h.imp_right (mt Nesting.check_eq_ok_iff.2))
  early _ := issued_of_early
  stopped e ledger' hrun hlate := by
    obtain ⟨done, rest, hd, hissued⟩ := exists_broken hrun hlate
    exact ⟨done, rest, hd, Document.prefix_of_agenda hd, hissued⟩
  repeated keys ledger' hrun hlate := by
    obtain ⟨done, rest, hd, hissued⟩ := exists_broken hrun hlate
    rw [hissued, Document.done_of_duplicateKeys hd rfl]
  flattened F ledger' hrun := by
    obtain ⟨hfaults, rfl, hissued⟩ := eq_of_flattened hrun
    refine ⟨?_, Document.census_placed f.issuer f.settings _ (nodup_keys_of_no_faults hfaults)⟩
    rw [hissued, d.length_entities]
  total := by
    dsimp only
    rw [d.length_entities, Document.idCount, Forest.weight, Document.Block.sum_idCount,
      Document.Action.sum_idCount, Document.Trigger.sum_idCount]
    omega

/-- **What is used up.** The validator is called at most once for a document, and flattening ends as
it answers. The ids issued are those of its entities, in order, up to the first broken rule, and
none if it is not walked through. A text that does not write a document uses up nothing. -/
theorem accounted (f : Flattener ι) (ledger : Ledger) :
    (∀ d, f.Accounted d ledger) ∧
      ∀ text, f.flattenText text ledger =
        match Document.parse text with
        | .ok d => f.flatten d ledger
        | .error reason => .error (.unreadable reason) ledger := by
  refine ⟨fun d => f.accounted_flatten d ledger, fun text => ?_⟩
  rw [flattenText]
  cases Document.parse text <;> rfl

theorem accounted_profile :
    let F := Document.placed (.sequential "id") .standard 0 .profile
    standard.flatten .profile .empty =
        .ok (.flattened F) ⟨13, [⟨submitted .profile, "frame.json", .ok .valid⟩]⟩ ∧
      Document.profile.entities.length = 13 ∧
      F.census = Document.profile.entities.zip ((Issuer.sequential "id").stretch 0 13) ∧
      standard.Accounted .profile .empty := by
  intro F
  have hflatten := flatten_of_no_faults .empty faults_profile
  have haccounted := (accounted standard .empty).1 .profile
  have hlength : Document.profile.entities.length = 13 := by decide
  have hcensus := (haccounted.flattened F _ hflatten).2
  rw [hlength] at hcensus
  exact ⟨hflatten, hlength, hcensus, haccounted⟩

end Flattener

end FrameTree
