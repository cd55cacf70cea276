import FrameTree.Proofs.Events
import FrameTree.Proofs.Repeats

/-!
# The walk through a document

**Faults.** What is wrong with a node can be read off the node, the label of its parent and the
number of its children. `Document.faults` lists everything that is wrong with a document once its
schema and nesting are in order, in the order in which the walk comes to it.

**Ids.** A trigger, an action and a block use up a number of ids that depends on nothing else
(`idCount`). So the id of every entity is known beforehand: the blocks are numbered in pre-order,
and within a block come its actions, each followed by its triggers in pre-order, then its
properties, its data and its slots (`placed`).

Main results: `Document.number_goes`, and from it `Document.number_of_no_faults` and
`Document.number_of_faults`.
-/

namespace FrameTree

variable {ι α β γ : Type}

namespace Issuer

/-- The id of a parent, given its number. -/
def link (I : Issuer ι) (parent : Option Nat) : ι := (parent.map I.id).getD I.absent

/-- Parts with the ids from `n` on. -/
def parts (I : Issuer ι) (flat : ι → α → β) (n : Nat) (xs : List α) : List β :=
  consecutive (fun _ => 1) (fun m => flat (I.id m)) n xs

theorem map_parts (I : Issuer ι) (flat : ι → α → β) {f : β → γ} {g : α → γ}
    (h : ∀ id x, f (flat id x) = g x) (n : Nat) (xs : List α) :
    (I.parts flat n xs).map f = xs.map g :=
  map_consecutive fun m x _ _ _ => h (I.id m) x

/-- Parts go along with what they are made from. -/
theorem forall₂_parts (I : Issuer ι) {flat : ι → α → β} {R : β → α → Prop}
    (h : ∀ id x, R (flat id x) x) (n : Nat) (xs : List α) :
    List.Forall₂ R (I.parts flat n xs) xs :=
  (forall₂_consecutive (R := fun x y => R y x) (fun m x => h (I.id m) x) n xs).flip

theorem mem_parts {I : Issuer ι} {flat : ι → α → β} {n : Nat} {xs : List α} {y : β}
    (h : y ∈ I.parts flat n xs) : ∃ id, ∃ x ∈ xs, y = flat id x := by
  obtain ⟨m, x, hx, -, -, rfl⟩ := mem_consecutive h
  exact ⟨I.id m, x, hx, rfl⟩

/-- Parts give back what they were made from. -/
theorem map_parts_eq_self (I : Issuer ι) (flat : ι → α → β) {f : β → α}
    (h : ∀ id x, f (flat id x) = x) (n : Nat) (xs : List α) : (I.parts flat n xs).map f = xs :=
  (I.map_parts flat h n xs).trans (List.map_id xs)

end Issuer

namespace Document

/-! ## Faults -/

/-- The entries whose value is no variable. -/
def bindingFaults (vars : List String) (owner : Owner) (data : List Binding) : List Error :=
  (data.filter fun b => b.value ∉ vars).map fun b => .unresolvedVariable owner b.key b.value

/-- A trigger that ends its chain has no triggers below it. -/
def chainFaults (t : Trigger) (below : Nat) : List Error :=
  if t.mode = .finish ∧ 0 < below then [.invalidChain t.name] else []

/-- A block is in a slot that its parent declares. A block without a parent, or whose parent
declares none, may be in any slot. -/
def slotFaults (settings : Settings) : (parent : Option Block) → Block → List Error
  | none, _ => []
  | some p, b =>
    let slot := b.slot.getD settings.defaultSlot
    if p.slots = [] ∨ slot ∈ p.slots.map Slot.name then [] else [.invalidSlot b.key slot]

/-- What is wrong with a trigger: its chain, then its data. -/
def Trigger.faults (vars : List String) (v : Visit Trigger) : List Error :=
  chainFaults v.label v.below ++ bindingFaults vars (.trigger v.label.name) v.label.data

/-- What is wrong with the triggers of an action, in pre-order. -/
def Action.faults (vars : List String) (a : Action) : List Error :=
  (Forest.visits none a.triggers).flatMap (Trigger.faults vars)

/-- What is wrong with a block: its slot, then its actions in order, then its data. -/
def Block.faults (settings : Settings) (vars : List String) (v : Visit Block) : List Error :=
  slotFaults settings v.parent v.label ++ v.label.actions.flatMap (Action.faults vars) ++
    bindingFaults vars (.block v.label.key) v.label.data

/-- The first root block has the reserved key type, if that is enforced. -/
def rootFaults (settings : Settings) (d : Document) : List Error :=
  match Forest.roots d.blocks with
  | [] => []
  | b :: _ =>
    if settings.enforceRootKeyType = true ∧ b.keyType ≠ settings.rootKeyType then
      [.invalidRoot b.keyType settings.rootKeyType]
    else []

/-- No two blocks have the same key. -/
def keyFaults (d : Document) : List Error :=
  let keys := (Forest.labels d.blocks).map Block.key
  if keys.Nodup then [] else [.duplicateKeys (Rules.duplicateKeys keys)]

/-- What is wrong with a document besides its schema and its nesting: the first root block, then
the blocks in pre-order, then the keys. -/
def faults (settings : Settings) (d : Document) : List Error :=
  rootFaults settings d ++
    (Forest.visits none d.blocks).flatMap (Block.faults settings (d.vars.map Variable.key)) ++
    keyFaults d

/-! ### Without faults -/

theorem bindingFaults_eq_nil_iff {vars : List String} {owner : Owner} {data : List Binding} :
    bindingFaults vars owner data = [] ↔ ∀ b ∈ data, b.value ∈ vars := by
  simp [bindingFaults]

theorem chainFaults_eq_nil_iff {t : Trigger} {below : Nat} :
    chainFaults t below = [] ↔ (t.mode = .finish → below = 0) := by
  rw [chainFaults]
  split
  · rename_i h
    refine iff_of_false (List.cons_ne_nil _ _) fun hmode => ?_
    have := hmode h.1
    omega
  · rename_i h
    exact iff_of_true rfl fun hmode => Nat.eq_zero_of_not_pos fun hbelow => h ⟨hmode, hbelow⟩

theorem slotFaults_some_eq_nil_iff {settings : Settings} {p b : Block} :
    slotFaults settings (some p) b = [] ↔
      p.slots = [] ∨ b.slot.getD settings.defaultSlot ∈ p.slots.map Slot.name := by
  rw [slotFaults]
  split
  · rename_i h
    exact iff_of_true rfl h
  · rename_i h
    exact iff_of_false (List.cons_ne_nil _ _) h

theorem Trigger.faults_eq_nil_iff {vars : List String} {v : Visit Trigger} :
    Trigger.faults vars v = [] ↔
      (v.label.mode = .finish → v.below = 0) ∧ ∀ b ∈ v.label.data, b.value ∈ vars := by
  rw [Trigger.faults, List.append_eq_nil_iff, chainFaults_eq_nil_iff, bindingFaults_eq_nil_iff]

theorem Action.faults_eq_nil_iff {vars : List String} {a : Action} :
    Action.faults vars a = [] ↔ ∀ v ∈ Forest.visits none a.triggers, Trigger.faults vars v = [] :=
  List.flatMap_eq_nil_iff

theorem Block.faults_eq_nil_iff {settings : Settings} {vars : List String} {v : Visit Block} :
    Block.faults settings vars v = [] ↔
      slotFaults settings v.parent v.label = [] ∧
        (∀ a ∈ v.label.actions, Action.faults vars a = []) ∧
        ∀ b ∈ v.label.data, b.value ∈ vars := by
  rw [Block.faults, List.append_eq_nil_iff, List.append_eq_nil_iff, List.flatMap_eq_nil_iff,
    bindingFaults_eq_nil_iff, and_assoc]

theorem keyFaults_eq_nil_iff {d : Document} :
    keyFaults d = [] ↔ ((Forest.labels d.blocks).map Block.key).Nodup := by
  simp [keyFaults]

theorem faults_eq_nil_iff {settings : Settings} {d : Document} :
    faults settings d = [] ↔
      rootFaults settings d = [] ∧
        (∀ v ∈ Forest.visits none d.blocks,
          Block.faults settings (d.vars.map Variable.key) v = []) ∧
        ((Forest.labels d.blocks).map Block.key).Nodup := by
  rw [faults, List.append_eq_nil_iff, List.append_eq_nil_iff, List.flatMap_eq_nil_iff,
    keyFaults_eq_nil_iff, and_assoc]

/-! ### The rules find the first fault -/

theorem checkBindings_eq (vars : List String) (owner : Owner) (data : List Binding) :
    Rules.checkBindings vars owner (data.map Binding.entry) =
      firstError (bindingFaults vars owner data) := by
  induction data with
  | nil => rfl
  | cons b data ih =>
    rw [List.map_cons, Binding.entry, Rules.checkBindings, ih]
    by_cases h : b.value ∈ vars
    · simp [bindingFaults, h]
    · simp [bindingFaults, h, firstError]

theorem checkChain_eq (t : Trigger) (below : Nat) :
    Rules.checkChain t.mode below t.name = firstError (chainFaults t below) := by
  rw [Rules.checkChain, chainFaults]
  split <;> rfl

theorem checkKeys_eq (d : Document) :
    Rules.checkKeys ((Forest.labels d.blocks).map Block.key) = firstError (keyFaults d) := by
  rw [Rules.checkKeys, keyFaults]
  by_cases h : ((Forest.labels d.blocks).map Block.key).Nodup
  · rw [(Rules.duplicateKeys_eq_nil_iff _).2 h, if_pos h]
    rfl
  · rw [if_neg h]
    split
    · rename_i hnil
      exact absurd ((Rules.duplicateKeys_eq_nil_iff _).1 hnil) h
    · rfl

theorem checkRoot_eq (settings : Settings) (d : Document) :
    d.checkRoot settings = firstError (rootFaults settings d) := by
  rw [checkRoot, rootFaults]
  cases d.blocks with
  | nil => rfl
  | cons t ts =>
    cases t with
    | node b us =>
      by_cases he : settings.enforceRootKeyType = true <;>
        by_cases hk : b.keyType = settings.rootKeyType <;> simp [he, hk, firstError]

/-! ## Events -/

def Trigger.events (vars : List String) (v : Visit Trigger) : List Event :=
  [.issued] ++ ((chainFaults v.label v.below).map .broken ++
    (List.replicate v.label.properties.length .issued ++
      (List.replicate v.label.data.length .issued ++
        (bindingFaults vars (.trigger v.label.name) v.label.data).map .broken)))

def Action.events (vars : List String) (a : Action) : List Event :=
  [.issued] ++ (Forest.visits none a.triggers).flatMap (Trigger.events vars)

def Block.events (settings : Settings) (vars : List String) (v : Visit Block) : List Event :=
  [.issued] ++ ((slotFaults settings v.parent v.label).map .broken ++
    (v.label.actions.flatMap (Action.events vars) ++
      (List.replicate v.label.properties.length .issued ++
        (List.replicate v.label.data.length .issued ++
          (List.replicate v.label.slots.length .issued ++
            (bindingFaults vars (.block v.label.key) v.label.data).map .broken)))))

/-- All that happens in the walk through a document. -/
def events (settings : Settings) (d : Document) : List Event :=
  (rootFaults settings d).map .broken ++ ([.issued] ++ (List.replicate d.vars.length .issued ++
    ((Forest.visits none d.blocks).flatMap (Block.events settings (d.vars.map Variable.key)) ++
      (keyFaults d).map .broken)))

theorem Trigger.faults_events (vars : List String) (v : Visit Trigger) :
    Event.faults (Trigger.events vars v) = Trigger.faults vars v := by
  simp [Trigger.events, Trigger.faults]

theorem Action.faults_events (vars : List String) (a : Action) :
    Event.faults (Action.events vars a) = Action.faults vars a := by
  simp [Action.events, Action.faults, Trigger.faults_events]

theorem Block.faults_events (settings : Settings) (vars : List String) (v : Visit Block) :
    Event.faults (Block.events settings vars v) = Block.faults settings vars v := by
  simp [Block.events, Block.faults, Action.faults_events]

theorem faults_events (settings : Settings) (d : Document) :
    Event.faults (d.events settings) = d.faults settings := by
  simp [events, faults, Block.faults_events]

/-! ## Ids -/

def Trigger.idCount (t : Trigger) : Nat := 1 + (t.properties.length + t.data.length)

def Action.idCount (a : Action) : Nat := 1 + Forest.weight Trigger.idCount a.triggers

def Block.idCount (b : Block) : Nat :=
  1 + ((b.actions.map Action.idCount).sum +
    (b.properties.length + (b.data.length + b.slots.length)))

/-- The number of entities of a frame made from a document. -/
def idCount (d : Document) : Nat := 1 + (d.vars.length + Forest.weight Block.idCount d.blocks)

theorem Trigger.idCount_pos (t : Trigger) : 0 < t.idCount := by rw [Trigger.idCount]; omega

theorem Block.idCount_pos (b : Block) : 0 < b.idCount := by rw [Block.idCount]; omega

/-- A trigger of a frame, from where the walk comes to it. -/
def Trigger.placed (I : Issuer ι) (actionId : ι) (s : Spot Trigger) : Frame.Trigger ι :=
  let id := I.id s.index
  let t := s.label
  t.flat id actionId (I.link s.parent)
    (I.parts (TriggerProperty.flat id) (s.index + 1) t.properties)
    (I.parts (Binding.flatInTrigger id) (s.index + 1 + t.properties.length) t.data)

/-- The triggers of an action of a document, numbered from `n` on. -/
def Action.spots (n : Nat) (a : Action) : Forest (Spot Trigger) :=
  Forest.numbered Trigger.idCount none 0 n a.triggers

/-- An action of a frame, with the next number `n`. -/
def Action.placed (I : Issuer ι) (frameId : ι) (key : String) (n : Nat) (a : Action) :
    Frame.Action ι :=
  { id := I.id n
    frameId
    key
    event := a.event
    triggers := (Forest.labels (a.spots (n + 1))).map (Trigger.placed I (I.id n)) }

/-- The actions of a block of a frame. -/
def Block.placedActions (I : Issuer ι) (frameId : ι) (s : Spot Block) : List (Frame.Action ι) :=
  consecutive Action.idCount (Action.placed I frameId s.label.key) (s.index + 1) s.label.actions

/-- A block of a frame, from where the walk comes to it. -/
def Block.placed (I : Issuer ι) (settings : Settings) (frameId : ι) (s : Spot Block) :
    Frame.Block ι :=
  let id := I.id s.index
  let b := s.label
  let n := s.index + 1 + (b.actions.map Action.idCount).sum
  b.flat id frameId (I.link s.parent) s.place (b.slotOr settings.defaultSlot)
    (I.parts (Property.flat id) n b.properties)
    (I.parts (Binding.flatInBlock id) (n + b.properties.length) b.data)
    (I.parts (Slot.flat id) (n + b.properties.length + b.data.length) b.slots)

/-- The blocks of a document, numbered after the frame, which has the number `n`, and its
variables. -/
def spots (n : Nat) (d : Document) : Forest (Spot Block) :=
  Forest.numbered Block.idCount none 0 (n + 1 + d.vars.length) d.blocks

/-- The frame of a document, if its id is the one issued after `n` others. -/
def placed (I : Issuer ι) (settings : Settings) (n : Nat) (d : Document) : Frame ι :=
  { id := I.id n
    name := d.name
    route := d.route
    routeArguments := distinct (Route.arguments d.route)
    kind := d.kind
    isStarter := d.isStarter
    projectId := settings.projectId
    checksum := ""
    vars := I.parts (Variable.flat (I.id n)) (n + 1) d.vars
    blocks := (Forest.labels (d.spots n)).map (Block.placed I settings (I.id n))
    actions := (Forest.labels (d.spots n)).flatMap (Block.placedActions I (I.id n)) }

/-! ## The walk -/

theorem Trigger.number_goes (I : Issuer ι) (vars : List String) (actionId : ι)
    (up : Option (Spot Trigger)) (s : Spot Trigger) (below : Nat)
    (hs : s.parent = up.map Spot.index) :
    Goes s.index
      (Trigger.number I vars actionId (up.map (Trigger.placed I actionId)) s.place s.label below)
      (Trigger.events vars ⟨up.map Spot.label, s.label, below⟩) s.label.idCount
      (Trigger.placed I actionId s) := by
  have hlink : ((up.map (Trigger.placed I actionId)).map (·.id)).getD I.absent =
      I.link s.parent := by
    rw [hs]
    cases up <;> rfl
  rw [Trigger.number, hlink, checkChain_eq, checkBindings_eq]
  refine Goes.of_eq (.bind (.issue I) (.bind (.check _) (.bind (.issueEach I _ _)
    (.bind (.issueEach I _ _) (.map (.check _) _))))) rfl ?_ rfl
  simp [Trigger.idCount]

theorem Action.number_goes (I : Issuer ι) (vars : List String) (frameId : ι) (key : String)
    (n : Nat) (a : Action) :
    Goes n (a.number I vars frameId key) (Action.events vars a) a.idCount
      (a.placed I frameId key n) := by
  rw [Action.number]
  exact .bind (.issue I) (.map
    (.enterAll (Trigger.number_goes I vars (I.id n)) a.triggers none 0) _)

theorem checkSlot_eq (I : Issuer ι) (settings : Settings) (frameId : ι) (up : Option (Spot Block))
    (b : Block) :
    Rules.checkSlot (declaredSlots (up.map (Block.placed I settings frameId)))
        (b.slotOr settings.defaultSlot) b.key =
      firstError (slotFaults settings (up.map Spot.label) b) := by
  cases up with
  | none => rfl
  | some s =>
    have hslots : declaredSlots (some (Block.placed I settings frameId s)) =
        s.label.slots.map Slot.name :=
      I.map_parts (Slot.flat (I.id s.index)) (fun _ _ => rfl) _ s.label.slots
    rw [Option.map_some, hslots, Rules.checkSlot, Option.map_some, slotFaults, Block.slotOr]
    by_cases hnil : s.label.slots = []
    · simp [hnil, firstError]
    · by_cases hmem : b.slot.getD settings.defaultSlot ∈ s.label.slots.map Slot.name <;>
        simp [hnil, hmem, firstError]

theorem Block.number_goes (I : Issuer ι) (settings : Settings) (vars : List String) (frameId : ι)
    (up : Option (Spot Block)) (s : Spot Block) (inside : Nat)
    (hs : s.parent = up.map Spot.index) :
    Goes s.index
      (Block.number I settings vars frameId
        (up.map fun s => (Block.placed I settings frameId s, Block.placedActions I frameId s))
        s.place s.label inside)
      (Block.events settings vars ⟨up.map Spot.label, s.label, inside⟩) s.label.idCount
      (Block.placed I settings frameId s, Block.placedActions I frameId s) := by
  have hfst : (up.map fun s => (Block.placed I settings frameId s,
      Block.placedActions I frameId s)).map Prod.fst =
        up.map (Block.placed I settings frameId) := by
    rw [Option.map_map]
    rfl
  have hlink : ((up.map (Block.placed I settings frameId)).map (·.id)).getD I.absent =
      I.link s.parent := by
    rw [hs]
    cases up <;> rfl
  rw [Block.number, hfst, hlink]
  dsimp only
  rw [checkSlot_eq, checkBindings_eq]
  refine Goes.of_eq (.bind (.issue I) (.bind (.check _) (.bind
    (.mapM fun m a _ => Action.number_goes I vars frameId s.label.key m a)
    (.bind (.issueEach I _ _) (.bind (.issueEach I _ _) (.bind (.issueEach I _ _)
      (.map (.check _) _))))))) rfl ?_ rfl
  simp [Block.idCount]

@[simp] theorem Action.relabel_spots (n : Nat) (a : Action) :
    Forest.relabel Spot.label (a.spots n) = a.triggers :=
  Forest.relabel_numbered _ _ _ _ _

@[simp] theorem relabel_spots (n : Nat) (d : Document) :
    Forest.relabel Spot.label (d.spots n) = d.blocks :=
  Forest.relabel_numbered _ _ _ _ _

/-- The spots of a document are those of its blocks in pre-order. -/
theorem labels_spots (n : Nat) (d : Document) :
    (Forest.labels (d.spots n)).map Spot.label = Forest.labels d.blocks :=
  Forest.labels_numbered _ _ _ _ _

/-- The keys of the blocks of a frame are those of the document in pre-order. -/
theorem keys_spots (n : Nat) (d : Document) :
    (Forest.labels (d.spots n)).map (fun s => s.label.key) =
      (Forest.labels d.blocks).map Block.key := by
  rw [← labels_spots n d, List.map_map]
  rfl

/-- The blocks use up the numbers after those of the frame and its variables. -/
theorem index_spots {n : Nat} {d : Document} {s : Spot Block} (hs : s ∈ Forest.labels (d.spots n)) :
    n + 1 + d.vars.length ≤ s.index ∧ s.index + s.label.idCount ≤ n + d.idCount := by
  have hindex := Forest.index_numbered Block.idCount none 0 (n + 1 + d.vars.length) d.blocks s hs
  rw [idCount]
  omega

/-- Every action comes from a block, and its numbers are among those of the block. -/
theorem mem_placed_actions {I : Issuer ι} {settings : Settings} {n : Nat} {d : Document}
    {a : Frame.Action ι} (ha : a ∈ (d.placed I settings n).actions) :
    ∃ s ∈ Forest.labels (d.spots n), ∃ m, ∃ b ∈ s.label.actions,
      n ≤ m ∧ m + b.idCount ≤ n + d.idCount ∧ a = b.placed I (I.id n) s.label.key m := by
  obtain ⟨s, hs, ha⟩ := List.mem_flatMap.1 ha
  obtain ⟨m, b, hb, hm, hm', rfl⟩ := mem_consecutive ha
  have hindex := index_spots hs
  refine ⟨s, hs, m, b, hb, by omega, ?_, rfl⟩
  rw [Block.idCount] at hindex
  omega

/-- **The walk through a document.** Started after `n` ids, it plays the events of the document, and
gives the frame whose ids are those issued from then on. -/
theorem number_goes (I : Issuer ι) (settings : Settings) (n : Nat) (d : Document) :
    Goes n (d.number I settings) (d.events settings) d.idCount (d.placed I settings n) := by
  have hblocks (vars : List String) :
      Goes (n + 0 + 1 + d.vars.length)
        (Tree.enterAll (Block.number I settings vars (I.id n)) none 0 d.blocks)
        ((Forest.visits none d.blocks).flatMap (Block.events settings vars))
        (Forest.weight Block.idCount d.blocks)
        ((Forest.labels (d.spots n)).map fun s =>
          (Block.placed I settings (I.id n) s, Block.placedActions I (I.id n) s)) :=
    .enterAll (Block.number_goes I settings vars (I.id n)) d.blocks none 0
  have hkeys : (((Forest.labels (d.spots n)).map fun s =>
      (Block.placed I settings (I.id n) s, Block.placedActions I (I.id n) s)).map Prod.fst).map
        (·.key) = (Forest.labels d.blocks).map Block.key := by
    rw [← keys_spots n d, List.map_map, List.map_map]
    rfl
  have hcheck := Goes.check (n := n + 0 + 1 + d.vars.length + Forest.weight Block.idCount d.blocks)
    (keyFaults d)
  rw [← checkKeys_eq, ← hkeys] at hcheck
  rw [number, checkRoot_eq]
  refine Goes.of_eq (.bind (.check _) (.bind (.issue I) (.bind (.issueEach I _ _)
    (.bind (hblocks _) (.map hcheck _))))) rfl ?_ ?_
  · simp [idCount]
  · simp [placed, Issuer.parts, List.map_map, List.flatMap_map, Function.comp_def]

/-- Without a fault, the walk goes through. -/
theorem number_of_no_faults (I : Issuer ι) {settings : Settings} (n : Nat) {d : Document}
    (h : d.faults settings = []) :
    d.number I settings n = .ok (d.placed I settings n) (n + d.idCount) := by
  have hgoes := number_goes I settings n d
  rw [hgoes.run, play_of_no_faults _ (by rw [faults_events, h]), hgoes.issues]

/-- With a fault, the walk ends with the first one. -/
theorem number_of_faults (I : Issuer ι) {settings : Settings} (n : Nat) {d : Document} {e : Error}
    {errors : List Error} (h : d.faults settings = e :: errors) :
    ∃ m, d.number I settings n = .error e m := by
  rw [(number_goes I settings n d).run]
  exact play_of_faults _ (by rw [faults_events, h]) n

end Document

end FrameTree
