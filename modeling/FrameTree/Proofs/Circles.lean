import FrameTree.Proofs.Lossless

/-!
# Circles of links

A frame from elsewhere can have blocks, or triggers of an action, that point at each other in a
circle. Rebuilding meets a circle only if a chain leads to it from the top. Then it goes round until
the limit stops it, and the frame is refused. A circle that hangs on nothing is never met: the frame
rebuilds as it would without the circle (`Rebuild.document_keep`).

Where ids are distinct and not empty, every circle is of the second kind (`Cycle.not_anchored`), so
only an id that is used twice, or an empty one, can get a frame refused for a circle.

Main results: `Rebuild.document_of_cycle`, and `Rebuild.document_detached_cycle` for a circle that
does not get its frame refused.
-/

namespace FrameTree

variable {β : Type} {id link : β → String} {entities : List β}

/-- Leaving out entities that are not anchored does not change what points at an anchored one, or
at nothing. -/
theorem Anchored.filter_link {keep : β → Bool}
    (hkeep : ∀ b, Anchored id link entities b → keep b = true) {target : String}
    (htarget : target = "" ∨ ∃ a, Anchored id link entities a ∧ target = id a) :
    ((entities.filter keep).filter fun b => link b == target) =
      entities.filter fun b => link b == target := by
  rw [List.filter_filter]
  refine List.filter_congr fun b hb => ?_
  by_cases hlink : link b = target
  · have hanchored : Anchored id link entities b := by
      rcases htarget with rfl | ⟨a, ha, rfl⟩
      · exact .of_root hb hlink
      · exact ha.child hb hlink
    simp [hlink, hkeep b hanchored]
  · simp [hlink]

namespace Frame

/-- The frame with some of its blocks, and with some of the triggers of each action. -/
def keep (F : Frame String) (blocks : Block String → Bool)
    (triggers : Action String → Trigger String → Bool) : Frame String :=
  { F with
    blocks := F.blocks.filter blocks
    actions := F.actions.map fun a => { a with triggers := a.triggers.filter (triggers a) } }

/-- The frame without the given blocks. -/
def withoutBlocks (F : Frame String) (blocks : List (Block String)) : Frame String :=
  F.keep (fun b => b ∉ blocks) fun _ _ => true

/-- The frame without the given triggers of an action. -/
def withoutTriggers (F : Frame String) (a : Action String) (triggers : List (Trigger String)) :
    Frame String :=
  F.keep (fun _ => true) fun a' t => a' ≠ a ∨ t ∉ triggers

end Frame

namespace Rebuild

open FrameTree.Frame

/-! ## What hangs on nothing does not matter -/

theorem action_keep (limit : Nat) {a : Action String} {keep : Trigger String → Bool}
    (hkeep : ∀ t, Anchored Trigger.id Trigger.parentId a.triggers t → keep t = true) :
    action limit { a with triggers := a.triggers.filter keep } = action limit a := by
  let index := LinkIndex.ofList Trigger.parentId a.triggers
  let index' := LinkIndex.ofList Trigger.parentId (a.triggers.filter keep)
  have hget {target : String}
      (htarget : target = "" ∨
        ∃ t, Anchored Trigger.id Trigger.parentId a.triggers t ∧ target = t.id) :
      index'.get target = index.get target := by
    rw [LinkIndex.get_ofList, LinkIndex.get_ofList]
    exact Anchored.filter_link hkeep htarget
  have hroots : index'.roots = index.roots := hget (.inl rfl)
  have hgrow : index.roots.mapM (trigger limit index') = index.roots.mapM (trigger limit index) := by
    refine mapM_congr fun t ht => ?_
    refine Tree.grow_congr (P := Anchored Trigger.id Trigger.parentId a.triggers)
      (fun _ _ => rfl) (fun s hs => hget (.inr ⟨s, hs, rfl⟩)) (fun s hs u hu => ?_) limit ?_
    · rw [hget (.inr ⟨s, hs, rfl⟩)] at hu
      obtain ⟨hu, hlink⟩ := LinkIndex.mem_get_ofList.1 hu
      exact hs.child hu hlink
    · obtain ⟨ht, hroot⟩ := LinkIndex.mem_get_ofList.1 ht
      exact .of_root ht hroot
  show (index'.roots.mapM (trigger limit index') >>= fun ts => _) =
    (index.roots.mapM (trigger limit index) >>= fun ts => _)
  rw [hroots, hgrow]

/-- **What hangs on nothing does not matter.** A frame rebuilds as it does without blocks and
triggers that are not anchored. -/
theorem document_keep (settings : Settings) (F : Frame String) (schema : String)
    {blocks : Block String → Bool} {triggers : Action String → Trigger String → Bool}
    (hblocks : ∀ b, Anchored Block.id Block.parentId F.blocks b → blocks b = true)
    (htriggers : ∀ a ∈ F.actions, ∀ t,
      Anchored Trigger.id Trigger.parentId a.triggers t → triggers a t = true) :
    document settings (F.keep blocks triggers) schema = document settings F schema := by
  let limit := settings.maxDepth
  let F' := F.keep blocks triggers
  let actions := LinkIndex.ofList Action.key F.actions
  let actions' := LinkIndex.ofList Action.key F'.actions
  have hget {target : String}
      (htarget : target = "" ∨
        ∃ b, Anchored Block.id Block.parentId F.blocks b ∧ target = b.id) :
      (blockIndex F').get target = (blockIndex F).get target := by
    rw [blockIndex, blockIndex, LinkIndex.get_sortedBy, LinkIndex.get_sortedBy,
      LinkIndex.get_ofList, LinkIndex.get_ofList]
    show ((F.blocks.filter blocks).filter fun b => b.parentId == target).mergeSort _ = _
    rw [Anchored.filter_link hblocks htarget]
  have hlabel (b : Block String) : label limit actions' b = label limit actions b := by
    have hactions : (actions'.get b.key).mapM (action limit) =
        (actions.get b.key).mapM (action limit) := by
      rw [LinkIndex.get_ofList, LinkIndex.get_ofList]
      show ((F.actions.map _).filter fun a => a.key == b.key).mapM (action limit) = _
      rw [List.filter_map, List.mapM_map]
      refine mapM_congr fun a ha => ?_
      exact action_keep limit (htriggers a (List.mem_of_mem_filter ha))
    rw [label, label, hactions]
  have hroots : (blockIndex F').roots = (blockIndex F).roots := hget (.inl rfl)
  have hgrow : (blockIndex F).roots.mapM (block limit (blockIndex F') actions') =
      (blockIndex F).roots.mapM (block limit (blockIndex F) actions) := by
    refine mapM_congr fun b hb => ?_
    refine Tree.grow_congr (P := Anchored Block.id Block.parentId F.blocks)
      (fun c _ => hlabel c) (fun c hc => hget (.inr ⟨c, hc, rfl⟩)) (fun c hc d hd => ?_) limit ?_
    · rw [hget (.inr ⟨c, hc, rfl⟩)] at hd
      obtain ⟨hd, hlink⟩ := mem_get_blockIndex.1 hd
      exact hc.child hd hlink
    · obtain ⟨hb, hroot⟩ := mem_get_blockIndex.1 hb
      exact .of_root hb hroot
  show ((blockIndex F').roots.mapM (block limit (blockIndex F') actions') >>= fun ts => _) =
    ((blockIndex F).roots.mapM (block limit (blockIndex F) actions) >>= fun ts => _)
  rw [hroots, hgrow]
  rfl

/-! ## Circles -/

/-- **A circle is refused just where it is met.** If a block of a circle is anchored, the frame is
refused with the error of the nesting limit; if none is, it rebuilds as it does without the circle.
The same holds for a circle of triggers in an action with the key of an anchored block. -/
theorem document_of_cycle (settings : Settings) (F : Frame String) (schema : String) :
    (∀ cycle, Cycle Block.id Block.parentId F.blocks cycle →
      ((∃ b ∈ cycle, Anchored Block.id Block.parentId F.blocks b) →
        document settings F schema = .error (.depthExceeded settings.maxDepth)) ∧
      ((∀ b ∈ cycle, ¬Anchored Block.id Block.parentId F.blocks b) →
        document settings F schema = document settings (F.withoutBlocks cycle) schema)) ∧
    (∀ b, Anchored Block.id Block.parentId F.blocks b → ∀ a ∈ F.actions, a.key = b.key →
      ∀ cycle, Cycle Trigger.id Trigger.parentId a.triggers cycle →
        ((∃ t ∈ cycle, Anchored Trigger.id Trigger.parentId a.triggers t) →
          document settings F schema = .error (.depthExceeded settings.maxDepth)) ∧
        ((∀ t ∈ cycle, ¬Anchored Trigger.id Trigger.parentId a.triggers t) →
          document settings F schema = document settings (F.withoutTriggers a cycle) schema)) := by
  have hrefused (h : TooDeep F settings.maxDepth) :
      document settings F schema = .error (.depthExceeded settings.maxDepth) :=
    ((document_failsIff settings F schema).eq_error_iff _).2 ⟨rfl, h⟩
  refine ⟨fun cycle hcycle => ⟨fun hmet => ?_, fun hdetached => ?_⟩, ?_⟩
  · exact hrefused (.inl (hcycle.overlong hmet _))
  · refine (document_keep settings F schema (fun b hb => ?_) fun _ _ _ _ => rfl).symm
    exact decide_eq_true fun hmem => hdetached b hmem hb
  · rintro b ⟨chain, hchain, hlast⟩ a ha hkey cycle hcycle
    refine ⟨fun hmet => ?_, fun hdetached => ?_⟩
    · exact hrefused (.inr ⟨chain, b, hchain, hlast, a, ha, hkey, hcycle.overlong hmet _⟩)
    · refine (document_keep settings F schema (fun _ _ => rfl) fun a' _ t ht => ?_).symm
      refine decide_eq_true ?_
      by_cases hsame : a' = a
      · subst hsame
        exact .inr fun hmem => hdetached t hmem ht
      · exact .inl hsame

end Rebuild

namespace Frame

/-- A block inside itself: its id is that of the root. -/
def looped : Frame String := ofLists [box "a" "" "outer", box "a" "a" "inner"] []

/-- A trigger below itself: its id is that of the trigger that starts the chain. -/
def rewound : Frame String :=
  ofLists [box "a" "" "outer"]
    [⟨"click", "frame", "outer", "onClick", [log "s" "" "first", log "s" "s" "again"]⟩]

theorem cycle_looped : Cycle Block.id Block.parentId looped.blocks [box "a" "a" "inner"] := by
  decide

theorem cycle_rewound : Cycle Trigger.id Trigger.parentId
    [log "s" "" "first", log "s" "s" "again"] [log "s" "s" "again"] := by
  decide

theorem cycle_scattered : Cycle Block.id Block.parentId scattered.blocks
    [box "d" "e" "ring", box "e" "d" "ring too"] := by
  decide

end Frame

namespace Rebuild

open FrameTree.Frame

theorem document_of_cycle_looped :
    document .standard looped "frame.json" = .error (.depthExceeded 256) ∧
      document .standard rewound "frame.json" = .error (.depthExceeded 256) ∧
      document .standard scattered "frame.json" =
        document .standard (scattered.withoutBlocks
          [box "d" "e" "ring", box "e" "d" "ring too"]) "frame.json" := by
  have hroot : Anchored Block.id Block.parentId rewound.blocks (box "a" "" "outer") :=
    .of_root (by decide) rfl
  have hmet : Anchored Block.id Block.parentId looped.blocks (box "a" "a" "inner") := by
    have hroot : Anchored Block.id Block.parentId looped.blocks (box "a" "" "outer") :=
      .of_root (by decide) rfl
    exact hroot.child (by decide) rfl
  have hmet' : Anchored Trigger.id Trigger.parentId
      [log "s" "" "first", log "s" "s" "again"] (log "s" "s" "again") := by
    have hfirst : Anchored Trigger.id Trigger.parentId
        [log "s" "" "first", log "s" "s" "again"] (log "s" "" "first") :=
      .of_root (by decide) rfl
    exact hfirst.child (by decide) rfl
  have hid : Identified Block.id scattered.blocks := by decide
  refine ⟨?_, ?_, ?_⟩
  · have h := (document_of_cycle .standard looped "frame.json").1 _ cycle_looped
    exact h.1 ⟨_, List.mem_singleton_self _, hmet⟩
  · have h := (document_of_cycle .standard rewound "frame.json").2 _ hroot _
      (List.mem_singleton_self _) rfl _ cycle_rewound
    exact h.1 ⟨_, List.mem_singleton_self _, hmet'⟩
  · have h := (document_of_cycle .standard scattered "frame.json").1 _ cycle_scattered
    exact h.2 fun b hb => cycle_scattered.not_anchored hid hb

/-- A circle that hangs on nothing does not get its frame refused. -/
theorem document_detached_cycle :
    Cycle Block.id Block.parentId scattered.blocks
        [box "d" "e" "ring", box "e" "d" "ring too"] ∧
      document { Settings.standard with maxDepth := 2 } scattered "frame.json" = .ok .gathered :=
  ⟨cycle_scattered, document_scattered⟩

end Rebuild

end FrameTree
