/-!
# Arguments of a route

A route names its arguments between braces. A placeholder is an opening brace, the shortest text
with no closing brace and no line feed, and the closing brace right after that text. An opening
brace that starts no placeholder is skipped by itself, and the search goes on after each
placeholder.
-/

namespace FrameTree.Route

/-- The text before the first closing brace and what follows the brace, unless the text ends or the
line ends before it. -/
def placeholder? : List Char → Option (List Char × List Char)
  | [] => none
  | c :: cs =>
    if c = '}' then some ([], cs)
    else if c = '\n' then none
    else (placeholder? cs).map fun (name, rest) => (c :: name, rest)

theorem length_of_placeholder? {cs name rest : List Char}
    (h : placeholder? cs = some (name, rest)) : rest.length < cs.length := by
  induction cs generalizing name with
  | nil => simp [placeholder?] at h
  | cons c cs ih =>
    unfold placeholder? at h
    split at h
    · simp_all
    · split at h
      · simp at h
      · obtain ⟨⟨n, r⟩, hr, he⟩ := Option.map_eq_some_iff.1 h
        obtain ⟨-, rfl⟩ := Prod.mk.inj he
        exact Nat.lt_succ_of_lt (ih hr)

/-- The contents of all placeholders in order, empty ones included. -/
def placeholders : List Char → List (List Char)
  | [] => []
  | c :: cs =>
    if c = '{' then
      match _h : placeholder? cs with
      | some (name, rest) => name :: placeholders rest
      | none => placeholders cs
    else placeholders cs
termination_by cs => cs.length
decreasing_by
  all_goals simp only [List.length_cons]
  · have := length_of_placeholder? _h; omega
  all_goals omega

/-- The named arguments of a route in order, repeats kept. -/
def arguments (route : String) : List String :=
  ((placeholders route.toList).filter fun name => !name.isEmpty).map String.ofList

end FrameTree.Route
