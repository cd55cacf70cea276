import FrameTree.Proofs.Flattening
import FrameTree.Proofs.Repeats

/-!
# Placeholders of a route

A route can be cut into placeholders and the gaps around them in many ways. The cut that counts is
the one that misses no placeholder: an opening brace may stand in a gap only where no closing brace
follows it in its line. There is just one such cut of each route, and the arguments of the route are
the names of its placeholders.

**Cuts** (`Route.Cut`). A cut alternates gaps and placeholders. `Route.scan` makes the cut of a
route from left to right, the way the arguments are found, and keeps the gaps as well.

**One cut.** What the scan makes is a proper cut of the route (`Route.scan_spec`). Conversely, in a
proper cut no opening brace of a gap could start a placeholder, and the name of a placeholder ends
at the first closing brace; so the scan gives back the cut (`Route.scan_text`).

Main result: `Route.arguments_cut`.
-/

namespace FrameTree.Route

/-! ## Names -/

/-- The text can be the name of a placeholder. -/
def IsName (name : List Char) : Prop := '}' ∉ name ∧ '\n' ∉ name

/-- No placeholder can start right before the text: it has no closing brace, or a line feed before
the first one. -/
def Stray (cs : List Char) : Prop :=
  '}' ∉ cs ∨ ∃ before after, cs = before ++ '}' :: after ∧ '}' ∉ before ∧ '\n' ∈ before

theorem isName_cons_iff {c : Char} {name : List Char} :
    IsName (c :: name) ↔ c ≠ '}' ∧ c ≠ '\n' ∧ IsName name := by
  rw [IsName, IsName, List.mem_cons, List.mem_cons, not_or, not_or]
  constructor
  · rintro ⟨⟨hclose, hname⟩, hline, hname'⟩
    exact ⟨Ne.symm hclose, Ne.symm hline, hname, hname'⟩
  · rintro ⟨hclose, hline, hname, hname'⟩
    exact ⟨⟨Ne.symm hclose, hname⟩, Ne.symm hline, hname'⟩

theorem placeholder?_append {name : List Char} (h : IsName name) (rest : List Char) :
    placeholder? (name ++ '}' :: rest) = some (name, rest) := by
  induction name with
  | nil => simp [placeholder?]
  | cons c name ih =>
    obtain ⟨hclose, hline, hname⟩ := isName_cons_iff.1 h
    simp [placeholder?, hclose, hline, ih hname]

theorem eq_of_placeholder? {cs name rest : List Char} (h : placeholder? cs = some (name, rest)) :
    cs = name ++ '}' :: rest ∧ IsName name := by
  induction cs generalizing name with
  | nil => cases h
  | cons c cs ih =>
    rw [placeholder?] at h
    by_cases hclose : c = '}'
    · rw [if_pos hclose] at h
      cases h
      subst hclose
      exact ⟨rfl, by simp [IsName]⟩
    · rw [if_neg hclose] at h
      by_cases hline : c = '\n'
      · rw [if_pos hline] at h
        cases h
      · rw [if_neg hline] at h
        obtain ⟨⟨name', rest'⟩, hsome, heq⟩ := Option.map_eq_some_iff.1 h
        cases heq
        obtain ⟨rfl, hname⟩ := ih hsome
        exact ⟨rfl, isName_cons_iff.2 ⟨hclose, hline, hname⟩⟩

theorem takeWhile_close {cs : List Char} (h : '}' ∉ cs) (rest : List Char) :
    (cs ++ '}' :: rest).takeWhile (· ≠ '}') = cs := by
  rw [List.takeWhile_append_of_pos]
  · simp
  · intro c hc
    rw [decide_eq_true_iff]
    rintro rfl
    exact h hc

theorem placeholder?_eq_none_iff {cs : List Char} : placeholder? cs = none ↔ Stray cs := by
  constructor
  · intro h
    by_cases hclose : '}' ∈ cs
    · obtain ⟨before, after, rfl, hbefore⟩ := List.eq_append_cons_of_mem hclose
      refine .inr ⟨before, after, rfl, hbefore, ?_⟩
      by_contra hline
      rw [placeholder?_append ⟨hbefore, hline⟩] at h
      cases h
    · exact .inl hclose
  · intro h
    rw [Option.eq_none_iff_forall_ne_some]
    rintro ⟨name, rest⟩ hsome
    obtain ⟨rfl, hname, hline⟩ := eq_of_placeholder? hsome
    rcases h with h | ⟨before, after, heq, hbefore, hline'⟩
    · exact h (by simp)
    · -- Both texts end right before the first closing brace.
      have hsame := congrArg (List.takeWhile (· ≠ '}')) heq
      rw [takeWhile_close hname, takeWhile_close hbefore] at hsame
      exact hline (hsame ▸ hline')

/-! ## Cuts -/

/-- A text cut into placeholders and the gaps around them. -/
inductive Cut where
  /-- A gap without a placeholder behind it. -/
  | last (gap : List Char)
  | next (gap name : List Char) (rest : Cut)

namespace Cut

def text : Cut → List Char
  | last gap => gap
  | next gap name rest => gap ++ '{' :: (name ++ '}' :: rest.text)

/-- The names of the placeholders in order. -/
def names : Cut → List (List Char)
  | last _ => []
  | next _ name rest => name :: rest.names

/-- No opening brace of a gap could start a placeholder, given what follows the gap. -/
def StrayIn (gap after : List Char) : Prop :=
  ∀ before later, gap = before ++ '{' :: later → Stray (later ++ after)

/-- Placeholders have names, and there are no others. -/
def Proper : Cut → Prop
  | last gap => StrayIn gap []
  | next gap name rest =>
    StrayIn gap ('{' :: (name ++ '}' :: rest.text)) ∧ IsName name ∧ rest.Proper

/-- The cut with one more character in its first gap. -/
def push (c : Char) : Cut → Cut
  | last gap => last (c :: gap)
  | next gap name rest => next (c :: gap) name rest

/-- Every cut comes about from its end, by characters of gaps and by placeholders. -/
@[elab_as_elim]
theorem induction {motive : Cut → Prop} (nil : motive (last []))
    (placeholder : ∀ name rest, motive rest → motive (next [] name rest))
    (push : ∀ c k, motive k → motive (push c k)) : ∀ k, motive k
  | last [] => nil
  | last (c :: gap) => push c (last gap) (induction nil placeholder push (last gap))
  | next [] name rest => placeholder name rest (induction nil placeholder push rest)
  | next (c :: gap) name rest =>
    push c (next gap name rest) (induction nil placeholder push (next gap name rest))

@[simp] theorem text_push (c : Char) (k : Cut) : (k.push c).text = c :: k.text := by
  cases k <;> rfl

@[simp] theorem names_push (c : Char) (k : Cut) : (k.push c).names = k.names := by
  cases k <;> rfl

theorem strayIn_nil (after : List Char) : StrayIn [] after := by
  intro before later h
  simp at h

theorem strayIn_cons_iff {c : Char} {gap after : List Char} :
    StrayIn (c :: gap) after ↔ (c = '{' → Stray (gap ++ after)) ∧ StrayIn gap after := by
  constructor
  · intro h
    refine ⟨?_, fun before later hgap => h (c :: before) later (by rw [hgap]; rfl)⟩
    rintro rfl
    exact h [] gap rfl
  · rintro ⟨hc, hgap⟩ before later heq
    cases before with
    | nil =>
      cases heq
      exact hc rfl
    | cons d before =>
      cases heq
      exact hgap before later rfl

theorem proper_push_iff {c : Char} {k : Cut} :
    (k.push c).Proper ↔ (c = '{' → Stray k.text) ∧ k.Proper := by
  cases k with
  | last gap => simp [push, Proper, text, strayIn_cons_iff]
  | next gap name rest => simp [push, Proper, text, strayIn_cons_iff, and_assoc]

end Cut

/-! ## Scanning -/

/-- The cut of a text, from left to right. -/
def scan : List Char → Cut
  | [] => .last []
  | c :: cs =>
    if c = '{' then
      match _h : placeholder? cs with
      | some (name, rest) => .next [] name (scan rest)
      | none => (scan cs).push c
    else (scan cs).push c
termination_by cs => cs.length
decreasing_by
  all_goals simp only [List.length_cons]
  · have := length_of_placeholder? _h; omega
  all_goals omega

theorem scan_placeholder {name : List Char} (h : IsName name) (rest : List Char) :
    scan ('{' :: (name ++ '}' :: rest)) = .next [] name (scan rest) := by
  rw [scan, if_pos rfl]
  split
  · rename_i n r hsome
    rw [placeholder?_append h] at hsome
    cases hsome
    rfl
  · rename_i hnone
    rw [placeholder?_append h] at hnone
    cases hnone

theorem scan_stray {c : Char} {cs : List Char} (h : c = '{' → Stray cs) :
    scan (c :: cs) = (scan cs).push c := by
  rw [scan]
  split
  · rename_i hc
    split
    · rename_i n r hsome
      rw [placeholder?_eq_none_iff.2 (h hc)] at hsome
      cases hsome
    · rfl
  · rfl

/-- A scan makes a proper cut, with the same placeholders as the arguments. -/
theorem scan_spec (cs : List Char) :
    (scan cs).text = cs ∧ (scan cs).Proper ∧ (scan cs).names = placeholders cs := by
  fun_induction scan cs with
  | case1 => exact ⟨rfl, Cut.strayIn_nil [], by rw [placeholders]; rfl⟩
  | case2 cs name rest hsome ih =>
    obtain ⟨htext, hproper, hnames⟩ := ih
    obtain ⟨hcs, hname⟩ := eq_of_placeholder? hsome
    refine ⟨by rw [Cut.text, htext, hcs]; rfl, ⟨Cut.strayIn_nil _, hname, hproper⟩, ?_⟩
    rw [placeholders, if_pos rfl, Cut.names, hnames]
    split
    · rename_i hsome'
      cases hsome.symm.trans hsome'
      rfl
    · rename_i hnone
      cases hsome.symm.trans hnone
  | case3 cs hnone ih =>
    obtain ⟨htext, hproper, hnames⟩ := ih
    refine ⟨by rw [Cut.text_push, htext], Cut.proper_push_iff.2 ⟨fun _ => ?_, hproper⟩, ?_⟩
    · rw [htext]
      exact placeholder?_eq_none_iff.1 hnone
    · rw [placeholders, if_pos rfl, Cut.names_push, hnames]
      split
      · rename_i hsome
        cases hnone.symm.trans hsome
      · rfl
  | case4 c cs hc ih =>
    obtain ⟨htext, hproper, hnames⟩ := ih
    refine ⟨by rw [Cut.text_push, htext], Cut.proper_push_iff.2 ⟨fun h => absurd h hc, hproper⟩, ?_⟩
    rw [placeholders, if_neg hc, Cut.names_push, hnames]

/-- A proper cut is the one that the scan of its text makes. -/
theorem scan_text {k : Cut} (h : k.Proper) : scan k.text = k := by
  induction k using Cut.induction with
  | nil => simp [Cut.text, scan]
  | placeholder name rest ih =>
    obtain ⟨-, hname, hrest⟩ := h
    rw [Cut.text, List.nil_append, scan_placeholder hname, ih hrest]
  | push c k ih =>
    obtain ⟨hc, hk⟩ := Cut.proper_push_iff.1 h
    rw [Cut.text_push, scan_stray hc, ih hk]

/-- **Arguments are the names of the one proper cut.** A route can be cut in just one way such that
no opening brace of a gap has a closing brace behind it in its line. Its arguments are the names of
the placeholders of this cut that are not empty, in order. A frame keeps of the arguments of its
route the first occurrence of each, in order. -/
theorem arguments_cut (route : String) :
    (∃! k : Cut, k.text = route.toList ∧ k.Proper) ∧
      (∀ k : Cut, k.text = route.toList → k.Proper →
        arguments route = (k.names.filter (· ≠ [])).map String.ofList) ∧
      ∀ {ι : Type} (f : Flattener ι) (d : Document) (ledger : Ledger) (F : Frame ι)
        (ledger' : Ledger), f.flatten d ledger = .ok (.flattened F) ledger' → F.route = route →
        F.routeArguments.Nodup ∧ (∀ name, name ∈ F.routeArguments ↔ name ∈ arguments route) ∧
          F.routeArguments.Pairwise fun m n =>
            (arguments route).idxOf m < (arguments route).idxOf n := by
  obtain ⟨htext, hproper, hnames⟩ := scan_spec route.toList
  refine ⟨⟨scan route.toList, ⟨htext, hproper⟩, ?_⟩, ?_, ?_⟩
  · rintro k ⟨hk, hk'⟩
    rw [← hk, scan_text hk']
  · intro k hk hk'
    rw [arguments, ← hnames, ← hk, scan_text hk']
    congr 2
    funext name
    cases name <;> rfl
  · intro ι f d ledger F ledger' hflatten hroute
    obtain ⟨-, rfl, -⟩ := Flattener.eq_of_flattened hflatten
    cases hroute
    exact ⟨nodup_distinct _, fun name => mem_distinct, pairwise_idxOf_distinct _⟩

example :
    placeholders ['{', 'a', '}', '}', '{', '{', 'b', '}', '{', '}', '{', 'c'] =
      [['a'], ['{', 'b'], []] := by
  cbv

end FrameTree.Route
