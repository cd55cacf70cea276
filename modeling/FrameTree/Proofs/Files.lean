import FrameTree.FileStore
import FrameTree.Proofs.Growth
import Mathlib.Tactic.SplitIfs

/-!
# Files that are written

Writing changes what stands at one place, and nothing that could be read before becomes unreadable:
where a path could be followed, it still leads to the same place, since a file only takes the place
of another one or of nothing (`FileStore.follow_set`).

**Slashes at the end.** Such a path leads to a directory, if anywhere. So what can be read as a file
can be written at the same path.

Main results: `FileStore.locate_of_write`, `FileStore.read_of_write`,
`FileStore.read_of_write_elsewhere`, `FileStore.exists_write_of_read`.
-/

namespace FrameTree

namespace FileStore

variable {s s' : FileStore} {path : String} {p q here : Path} {text : String} {t : Option String}

/-! ## Following -/

theorem at?_set (hp : s.at? p ≠ some .directory) (e : Entry) (q : Path) :
    (s.set p e).at? q = if q = p then some e else s.at? q := by
  by_cases hq : q = p
  · subst hq
    have habove : ¬q <+: s.home := fun h => hp (by rw [at?, if_pos h])
    simp [at?, set, habove]
  · simp [at?, set, hq]

theorem follow_cons (h : s.at? here = some .directory) (step : String) (steps : List String) :
    s.follow here (step :: steps) =
      if step == "" || step == "." then s.follow here steps
      else if step == ".." then s.follow here.dropLast steps
      else if step.utf8ByteSize > maxStepSize then .error .nameTooLong
      else s.follow (here ++ [step]) steps := by
  rw [follow, h]

/-- There is no going on but from a directory. -/
theorem at?_of_follow_cons {step : String} {steps : List String}
    (h : s.follow here (step :: steps) = .ok q) : s.at? here = some .directory := by
  rw [follow] at h
  split at h
  · cases h
  · cases h
  · cases h
  · assumption

/-- A path that can be followed leads to the same place after a file was put somewhere. -/
theorem follow_set (hp : s.at? p ≠ some .directory) {steps : List String}
    (h : s.follow here steps = .ok q) : (s.set p (.file t)).follow here steps = .ok q := by
  induction steps generalizing here with
  | nil => exact h
  | cons step steps ih =>
    have hhere := at?_of_follow_cons h
    have hne : here ≠ p := fun heq => hp (heq ▸ hhere)
    have hhere' : (s.set p (.file t)).at? here = some .directory := by
      rw [at?_set hp, if_neg hne, hhere]
    rw [follow_cons hhere] at h
    rw [follow_cons hhere']
    split_ifs at h ⊢ with _ _ _
    · exact ih h
    · exact ih h
    · exact ih h

theorem locate_set (hp : s.at? p ≠ some .directory) (h : s.locate path = .ok q) :
    (s.set p (.file t)).locate path = .ok q := by
  rw [locate] at h ⊢
  split_ifs at h ⊢ with _ _ _ _
  · exact follow_set hp h
  · exact follow_set hp h

/-- A path is followed from the root if it begins with a slash, and from the working directory
otherwise. -/
theorem locate_eq_follow (hnul : '\x00' ∉ path.toList) (hsize : path.utf8ByteSize ≤ maxPathSize)
    (hempty : path ≠ "") :
    s.locate path =
      s.follow (if path.toList.head? = some '/' then [] else s.home) (steps path) := by
  have hstart : path.startsWith "/" ↔ path.toList.head? = some '/' := by
    rw [String.startsWith_string_iff]
    cases path.toList <;> simp [eq_comm]
  simp [locate, String.contains_char_eq, hnul, Nat.not_lt.2 hsize, hempty, hstart]

/-- A name leads to what has it in the working directory. -/
theorem locate_name (hnul : '\x00' ∉ path.toList) (hslash : '/' ∉ path.toList)
    (hname : path ∉ ["", ".", ".."]) (hsize : path.utf8ByteSize ≤ maxStepSize) :
    s.locate path = .ok (s.home ++ [path]) := by
  simp only [List.mem_cons, List.not_mem_nil, or_false, not_or] at hname
  obtain ⟨hempty, hdot, hdots⟩ := hname
  have hstart : path.toList.head? ≠ some '/' := fun h => hslash (List.mem_of_head? h)
  have hsteps : steps path = [path] := by
    rw [steps, List.splitOn, List.splitOnP_eq_singleton, List.map_singleton, String.ofList_toList]
    intro c hc
    rw [beq_eq_false_iff_ne]
    rintro rfl
    exact hslash hc
  have hlong : path.utf8ByteSize ≤ maxPathSize := Nat.le_trans hsize (by decide)
  rw [locate_eq_follow hnul hlong hempty, hsteps, if_neg hstart]
  simp [follow, at?, hempty, hdot, hdots, Nat.not_lt.2 hsize]

/-! ## Slashes at the end -/

/-- A path that ends in nothing leads to a directory. -/
theorem at?_of_follow_concat {steps : List String} (h : s.follow here (steps ++ [""]) = .ok q) :
    s.at? q = some .directory := by
  induction steps generalizing here with
  | nil =>
    have hhere := at?_of_follow_cons h
    rw [List.nil_append, follow_cons hhere] at h
    cases h
    exact hhere
  | cons step steps ih =>
    rw [List.cons_append, follow_cons (at?_of_follow_cons h)] at h
    split_ifs at h
    · exact ih h
    · exact ih h
    · exact ih h

theorem steps_of_endsWith (h : path.endsWith '/') : ∃ before, steps path = before ++ [""] := by
  rw [String.endsWith_char_eq_getLast?, beq_iff_eq, List.getLast?_eq_some_iff] at h
  obtain ⟨cs, hcs⟩ := h
  refine ⟨(cs.splitOn '/').map String.ofList, ?_⟩
  rw [steps, hcs, List.splitOn, List.splitOnP_append_cons _ _ (by simp), List.map_append]
  rfl

theorem at?_of_endsWith (h : path.endsWith '/') (hlocate : s.locate path = .ok p) :
    s.at? p = some .directory := by
  obtain ⟨before, hsteps⟩ := steps_of_endsWith h
  rw [locate, hsteps] at hlocate
  split_ifs at hlocate with _ _ _ _
  · exact at?_of_follow_concat hlocate
  · exact at?_of_follow_concat hlocate

theorem withoutSlashes_of_not_endsWith (h : ¬path.endsWith '/') : withoutSlashes path = path := by
  rw [String.endsWith_char_eq_getLast?, ← List.head?_reverse] at h
  rw [withoutSlashes]
  cases hcs : path.toList.reverse with
  | nil => rfl
  | cons c cs =>
    rw [hcs] at h
    have hc : (c == '/') = false := by simpa using h
    rw [List.dropWhile_cons_of_neg (by simp [hc])]
    dsimp only
    rw [← hcs, List.reverse_reverse, String.ofList_toList]

/-! ## Reading and writing -/

theorem read_eq_ok_iff :
    s.read path = .ok text ↔ ∃ p, s.locate path = .ok p ∧ s.at? p = some (.file (some text)) := by
  unfold read
  rw [bind_eq_ok_iff]
  refine exists_congr fun p => and_congr_right fun _ => ?_
  rcases s.at? p with _ | _ | (_ | _) | _ <;>
    simp [throw, throwThe, MonadExceptOf.throw, pure, Except.pure]

theorem isFile_of_read (h : s.read path = .ok text) : s.isFile path := by
  obtain ⟨p, hlocate, hfile⟩ := read_eq_ok_iff.1 h
  rw [isFile, hlocate]
  dsimp only
  rw [hfile]

/-- Where a file may be written, it is, at the place that the path leads to. -/
theorem write_eq_ok_iff :
    s.write path t = .ok s' ↔
      ¬path.endsWith '/' ∧ ∃ p, s.locate path = .ok p ∧ s.at? p ≠ some .directory ∧
        (∀ reason, s.at? p ≠ some (.barred reason)) ∧ s' = s.set p (.file t) := by
  unfold write
  rw [bind_eq_ok_iff]
  by_cases hslash : path.endsWith '/'
  · refine iff_of_false ?_ fun h => h.1 hslash
    rintro ⟨p, -, h⟩
    simp only [hslash, if_true] at h
    split at h <;> cases h
  · rw [withoutSlashes_of_not_endsWith hslash]
    simp only [hslash, Bool.false_eq_true, not_false_eq_true, true_and, if_false]
    refine exists_congr fun p => and_congr_right fun _ => ?_
    rcases s.at? p with _ | _ | _ | _
    · simp [pure, Except.pure, eq_comm]
    · simp [throw, throwThe, MonadExceptOf.throw]
    · simp [pure, Except.pure, eq_comm]
    · simp [throw, throwThe, MonadExceptOf.throw]

/-- Writing changes what stands at the place that the path leads to, and nothing else. -/
theorem locate_of_write (h : s.write path t = .ok s') (hq : s'.at? q ≠ s.at? q) :
    s.locate path = .ok q := by
  obtain ⟨-, p, hlocate, hp, -, rfl⟩ := write_eq_ok_iff.1 h
  rw [at?_set hp] at hq
  by_cases heq : q = p
  · rw [heq, hlocate]
  · rw [if_neg heq] at hq
    exact absurd rfl hq

/-- What was written is read back. -/
theorem read_of_write (h : s.write path (some text) = .ok s') : s'.read path = .ok text := by
  obtain ⟨-, p, hlocate, hp, -, rfl⟩ := write_eq_ok_iff.1 h
  refine read_eq_ok_iff.2 ⟨p, locate_set hp hlocate, ?_⟩
  rw [at?_set hp, if_pos rfl]

/-- What stands elsewhere can still be read. -/
theorem read_of_write_elsewhere {out : String} (h : s.write out t = .ok s')
    (hread : s.read path = .ok text) (hout : s.locate out ≠ s.locate path) :
    s'.read path = .ok text := by
  obtain ⟨-, p, hlocate, hp, -, rfl⟩ := write_eq_ok_iff.1 h
  obtain ⟨q, hq, htext⟩ := read_eq_ok_iff.1 hread
  have hne : q ≠ p := by
    rintro rfl
    exact hout (hlocate.trans hq.symm)
  refine read_eq_ok_iff.2 ⟨q, locate_set hp hq, ?_⟩
  rw [at?_set hp, if_neg hne, htext]

/-- What can be read can be written. -/
theorem exists_write_of_read (h : s.read path = .ok text) (t : Option String) :
    ∃ s', s.write path t = .ok s' := by
  obtain ⟨p, hlocate, hfile⟩ := read_eq_ok_iff.1 h
  refine ⟨_, write_eq_ok_iff.2 ⟨?_, p, hlocate, ?_, ?_, rfl⟩⟩
  · intro hslash
    rw [at?_of_endsWith hslash hlocate] at hfile
    cases hfile
  · rw [hfile]
    simp
  · rw [hfile]
    simp

end FileStore

/-! ## Loading -/

section

variable {v : FileView} {path : String}

/-- What is loaded is what the text of the file is read as. -/
theorem FileView.load_eq_ok_iff {α : Type} {parse : String → Json.Reading α} {a : α} :
    (v.load path >>= fun text => Json.Reading.orError (parse text)) = .ok a ↔
      ∃ text, v.read path = .ok text ∧ parse text = .ok a := by
  rw [bind_eq_ok_iff, load]
  cases v.read path with
  | error e => simp
  | ok text => cases h : parse text <;> simp [h, Json.Reading.orError]

theorem Document.load_eq_ok_iff {d : Document} :
    load v path = .ok d ↔ ∃ text, v.read path = .ok text ∧ parse text = .ok d :=
  FileView.load_eq_ok_iff

theorem Frame.load_eq_ok_iff {F : Frame String} :
    load v path = .ok F ↔ ∃ text, v.read path = .ok text ∧ parse text = .ok F :=
  FileView.load_eq_ok_iff

theorem Settings.load_eq_ok_iff {settings : Settings} :
    load v path = .ok settings ↔ ∃ text, v.read path = .ok text ∧ parse text = .ok settings :=
  FileView.load_eq_ok_iff

end

end FrameTree
