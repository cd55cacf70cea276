import FrameTree.Proofs.Levels
import FrameTree.Proofs.Tidy

/-!
# Generating, pulling and saving

What an author gets back after a document was flattened and its frame rebuilt.

**A second pass** (`Rebuild.document_stable`). Flattening what was rebuilt gives the same frame
again, but for the slots of the root blocks, and rebuilding that gives the same document.

**Saving** (`Rebuild.parse_print_rebuilt`). What was rebuilt can be printed and read again, as long
as it does not nest deeper than the reader goes. By leaving out empty lists an author can go one
level deeper than where all lists are written: a chain of 61 triggers is read, flattened and
rebuilt, and what is printed then cannot be read (`Rebuild.parse_print_relayed`).

Main results: `Rebuild.document_stable` and `Rebuild.parse_print_rebuilt`.
-/

namespace FrameTree

/-! ## A second pass -/

namespace Rebuild

/-- **A second pass changes nothing.** A document that is read has no slot with the empty name inside
another block. If such a document is flattened to a frame, then what is rebuilt from the frame is
flattened to the same frame, with the same ids, but for the slots of the root blocks, and rebuilding
that frame gives the same document again. -/
theorem document_stable (settings : Settings) (validator : Validator) (stem : String) :
    (∀ text d, Document.parse text = .ok d → d.ProperSlots) ∧
    ∀ (d : Document) (F : Frame String) (ledger : Ledger), d.ProperSlots →
      Flattener.flatten ⟨settings, validator, .sequential stem⟩ d .empty =
          .ok (.flattened F) ledger →
      ∃ d₂, document settings F d.schema = .ok d₂ ∧
        (validator (Flattener.submitted d₂) d₂.schema = .ok .valid →
          (∃ ledger₂, Flattener.flatten ⟨settings, validator, .sequential stem⟩ d₂ .empty =
            .ok (.flattened (F.withRootSlot settings.defaultSlot)) ledger₂) ∧
          document settings (F.withRootSlot settings.defaultSlot) d.schema = .ok d₂) := by
  constructor
  · intro text d h
    exact (Document.tidy_of_parse h).properSlots
  · intro d F ledger hd h
    obtain ⟨hfaults, hF, -⟩ := Flattener.eq_of_flattened h
    replace hF : F = d.placed (.sequential stem) settings 0 := hF
    have hfresh (e : Document) : (Issuer.sequential stem).Fresh 0 (0 + e.idCount) :=
      Issuer.fresh_sequential stem 0 _
    have hround := document_of_no_faults hfaults (hfresh d)
    refine ⟨d.normal settings.defaultSlot, hF ▸ hround, ?_⟩
    intro hvalid
    have hnone := Flattener.faults_normal_eq_nil hfaults hd hvalid
    have hF₂ : F.withRootSlot settings.defaultSlot =
        (d.normal settings.defaultSlot).placed (.sequential stem) settings 0 := by
      rw [hF]
      exact (Document.placed_normal (hfresh d) hd).symm
    rw [hF₂]
    constructor
    · exact ⟨_, Flattener.flatten_of_no_faults .empty hnone⟩
    · have hround₂ := document_of_no_faults hnone (hfresh _)
      rwa [Document.normal_normal _ hd] at hround₂

theorem document_stable_profile :
    Document.profile.ProperSlots ∧
      Flattener.standard.flatten .profile .empty =
        .ok (.flattened (Document.placed (.sequential "id") .standard 0 .profile))
          { Flattener.standard.asked .profile .empty with issued := 13 } ∧
      ∃ d₂,
        document .standard (Document.placed (.sequential "id") .standard 0 .profile) "frame.json" =
          .ok d₂ ∧
        (∃ ledger₂, Flattener.standard.flatten d₂ .empty =
          .ok (.flattened ((Document.placed (.sequential "id") .standard 0 .profile).withRootSlot
            "content")) ledger₂) ∧
        document .standard ((Document.placed (.sequential "id") .standard 0 .profile).withRootSlot
          "content") "frame.json" = .ok d₂ := by
  have hproper : Document.profile.ProperSlots := by decide
  have hflatten := Flattener.flatten_of_no_faults .empty Flattener.faults_profile
  obtain ⟨d₂, hd₂, hstable⟩ :=
    (document_stable .standard .acceptAll "id").2 .profile _ _ hproper hflatten
  obtain ⟨hsecond, hround⟩ := hstable rfl
  exact ⟨hproper, hflatten, d₂, hd₂, hsecond, hround⟩

end Rebuild

/-! ## Saving -/

namespace Rebuild

/-- **Saving.** A document that is read, flattened to a frame by the standard settings and rebuilt
from the frame can be printed and read again, if it does not nest deeper than the reader goes. It
nests as deep as the document that was read would when printed, which is one level deeper than the
reader goes at most. -/
theorem parse_print_rebuilt {text : String} {d : Document} {validator : Validator}
    {I : Issuer String} {ledger ledger' : Ledger} {F : Frame String}
    (hread : Document.parse text = .ok d)
    (h : Flattener.flatten ⟨.standard, validator, I⟩ d ledger = .ok (.flattened F) ledger')
    (hI : I.Fresh ledger.issued ledger'.issued) :
    ∃ d₂, document .standard F d.schema = .ok d₂ ∧
      d₂.toJson.nesting = d.toJson.nesting ∧ d₂.toJson.nesting ≤ Json.nestingRoom + 1 ∧
      Document.parse d₂.print =
        if d₂.toJson.nesting ≤ Json.nestingRoom then .ok d₂ else .error (.malformed .tooDeep) := by
  obtain ⟨hfaults, rfl, hissued⟩ := Flattener.eq_of_flattened h
  rw [hissued] at hI
  have hround := document_of_no_faults hfaults hI
  have hnesting := Document.nesting_normal Settings.standard.defaultSlot d
  refine ⟨_, hround, hnesting, ?_, ?_⟩
  · rw [hnesting]
    exact Document.nesting_of_parse hread
  · have hslot : Settings.standard.defaultSlot ≠ "null" := by decide
    have htidy := (Document.tidy_of_parse hread).normal hslot
    rw [Document.parse_print, Document.tidy_eq htidy]
    rfl

theorem parse_print_rebuilt_profile :
    Document.parse Document.profile.print = .ok .profile ∧
      Flattener.standard.flatten .profile .empty =
        .ok (.flattened (Document.placed (.sequential "id") .standard 0 .profile))
          { Flattener.standard.asked .profile .empty with issued := 13 } ∧
      (Issuer.sequential "id").Fresh 0 13 ∧
      ∃ d₂,
        document .standard (Document.placed (.sequential "id") .standard 0 .profile) "frame.json" =
          .ok d₂ ∧
        Document.parse d₂.print = .ok d₂ := by
  have hread : Document.parse Document.profile.print = .ok .profile := by
    rw [Document.parse_print, Document.tidy_eq (by decide)]
    exact if_pos (by decide +kernel)
  have hflatten := Flattener.flatten_of_no_faults .empty Flattener.faults_profile
  have hfresh := Issuer.fresh_sequential "id" 0 13
  obtain ⟨d₂, hd₂, -, -, hprint⟩ := parse_print_rebuilt hread hflatten hfresh
  have hnormal := document_of_no_faults Flattener.faults_profile hfresh
  obtain rfl : d₂ = Document.normal "content" .profile := Except.ok.inj (hd₂.symm.trans hnormal)
  rw [if_pos (by decide +kernel)] at hprint
  exact ⟨hread, hflatten, hfresh, _, hd₂, hprint⟩

end Rebuild

/-! ## A chain of triggers -/

namespace Document

open Json (Cell)

/-- A trigger with `n` triggers in a chain below it. -/
def relay : Nat → Tree Trigger
  | 0 => .node { (default : Trigger) with keyType := "LOG" } []
  | n + 1 => .node { (default : Trigger) with keyType := "LOG" } [relay n]

/-- The chain as an author may write it, with nothing that can be left out. -/
def relayJson : Nat → Json
  | 0 => .object [("keyType", .string "LOG")]
  | n + 1 => .object [("keyType", .string "LOG"), ("triggers", .array [relayJson n])]

/-- One block with the chain as its action. -/
def relayed (n : Nat) : Document :=
  { (default : Document) with
    schema := "frame.json"
    blocks :=
      [.node
        { (default : Block) with
          keyType := "ROOT", key := "root", actions := [⟨"", "onTap", [relay n]⟩] }
        []] }

def relayedJson (n : Nat) : Json :=
  .object [("$schema", .string "frame.json"), ("blocks", .array [.object
    [("keyType", .string "ROOT"), ("key", .string "root"), ("actions", .array [.object
      [("event", .string "onTap"), ("triggers", .array [relayJson n])]])]])]

theorem relay_renders (n : Nat) : triggerRenders (relay n) (relayJson n) := by
  induction n with
  | zero =>
    refine ⟨_, rfl, Cell.Listed.writes ?_ (Trigger.complete _ _ _).nodup⟩
    exact .given rfl (.missing rfl rfl (.missing rfl rfl (.missing rfl rfl (.missing rfl rfl
      (.missing rfl rfl (.missing rfl rfl .nil))))))
  | succ n ih =>
    refine ⟨_, rfl, Cell.Listed.writes ?_ (Trigger.complete _ _ _).nodup⟩
    have hbelow : triggersRender [relay n] [relayJson n] := ⟨_, _, rfl, ih, rfl⟩
    exact .given rfl (.missing rfl rfl (.missing rfl rfl (.missing rfl rfl (.missing rfl rfl
      (.missing rfl rfl (.given ⟨_, rfl, hbelow⟩ .nil))))))

theorem relayed_renders (n : Nat) : (relayed n).Renders (relayedJson n) := by
  have haction : Action.Renders ⟨"", "onTap", [relay n]⟩
      (.object [("event", .string "onTap"), ("triggers", .array [relayJson n])]) := by
    refine ⟨_, rfl, Cell.Listed.writes ?_ (Action.complete _).nodup⟩
    have hchain : triggersRender [relay n] [relayJson n] := ⟨_, _, rfl, relay_renders n, rfl⟩
    exact .missing rfl rfl (.given rfl (.given ⟨_, rfl, hchain⟩ .nil))
  have hblocks : blocksRender (relayed n).blocks [.object [("keyType", .string "ROOT"),
      ("key", .string "root"), ("actions", .array [.object [("event", .string "onTap"),
        ("triggers", .array [relayJson n])]])]] := by
    refine ⟨_, _, rfl, ⟨_, rfl, Cell.Listed.writes ?_ (Block.complete _ _ _).nodup⟩, rfl⟩
    exact .given rfl (.given rfl (.missing rfl rfl (.missing rfl rfl (.missing rfl rfl
      (.missing rfl rfl (.missing rfl rfl (.missing rfl rfl
        (.given ⟨_, rfl, .cons haction .nil⟩ (.missing rfl rfl .nil)))))))))
  refine ⟨_, rfl, Cell.Listed.writes ?_ (complete _).nodup⟩
  exact .given rfl (.missing rfl rfl (.missing rfl rfl (.missing rfl rfl (.missing rfl rfl
    (.missing rfl rfl (.given ⟨_, rfl, hblocks⟩ .nil))))))

theorem parse_relayed {n : Nat} (hn : (relayedJson n).nesting ≤ Json.nestingRoom) :
    Document.parse (relayedJson n).compact = .ok (relayed n) := by
  have htidy : (relayed n).Tidy := List.forall_mem_singleton.2 rfl
  rw [parse_of_renders (relayed_renders n) Json.Node.scan_compact, tidy_eq htidy]
  exact if_pos hn

end Document

theorem Flattener.faults_relayed : Flattener.standard.faults (.relayed 60) = [] := by
  decide +kernel

/-- **A frame whose document cannot be read again.** The author leaves out the lists of the last
trigger, which are printed, one level deeper. -/
theorem Rebuild.parse_print_relayed :
    Document.parse (Document.relayedJson 60).compact = .ok (.relayed 60) ∧
      Flattener.standard.flatten (.relayed 60) .empty =
        .ok (.flattened (Document.placed (.sequential "id") .standard 0 (.relayed 60)))
          { Flattener.standard.asked (.relayed 60) .empty with issued := 64 } ∧
      (Issuer.sequential "id").Fresh 0 64 ∧
      document .standard (Document.placed (.sequential "id") .standard 0 (.relayed 60))
          "frame.json" =
        .ok (Document.normal "content" (.relayed 60)) ∧
      Document.parse (Document.normal "content" (.relayed 60)).print =
        .error (.malformed .tooDeep) := by
  have hread : (Document.relayedJson 60).nesting ≤ Json.nestingRoom := by decide +kernel
  have hdeep : ¬(Document.normal "content" (.relayed 60)).toJson.nesting ≤ Json.nestingRoom := by
    decide +kernel
  have hfresh := Issuer.fresh_sequential "id" 0 64
  refine ⟨Document.parse_relayed hread,
    Flattener.flatten_of_no_faults .empty Flattener.faults_relayed, hfresh,
    document_of_no_faults (f := Flattener.standard) (n := 0) Flattener.faults_relayed hfresh, ?_⟩
  rw [Document.parse_print]
  exact if_neg hdeep

end FrameTree
