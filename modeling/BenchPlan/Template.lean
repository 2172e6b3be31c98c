import BenchPlan.Text.Word

/-!
# Command templates

A template holds placeholders of the form `%(name)s`, where the name is made of word characters. The
text is read once from left to right, so what is put in for a placeholder is never read again.
-/

namespace BenchPlan.Template

open Text

/-- The name of the placeholder at the start of a text, and what follows the placeholder. -/
def placeholder? : List Char → Option (List Char × List Char)
  | '%' :: '(' :: rest =>
    let name := rest.takeWhile isWord
    if name.isEmpty then none
    else
      match rest.dropWhile isWord with
      | ')' :: 's' :: after => some (name, after)
      | _ => none
  | _ => none

/-- A placeholder as it is written. -/
def written (name : List Char) : List Char := '%' :: '(' :: name ++ [')', 's']

/-- A placeholder is read where it is written. -/
theorem eq_of_placeholder? {cs name after : List Char}
    (h : placeholder? cs = some (name, after)) : cs = written name ++ after := by
  unfold placeholder? at h
  split at h
  · rename_i rest
    simp only at h
    split at h
    · cases h
    · split at h
      · rename_i after' e
        cases h
        have := List.takeWhile_append_dropWhile (p := isWord) (l := rest)
        rw [e] at this
        show '%' :: '(' :: rest = _
        conv => lhs; rw [← this]
        simp [written]
      · cases h
  · cases h

/-- The characters behind a placeholder are fewer. -/
theorem length_of_placeholder? {cs name after : List Char}
    (h : placeholder? cs = some (name, after)) : after.length < cs.length := by
  rw [eq_of_placeholder? h]
  simp only [written, List.length_append, List.length_cons, List.cons_append, List.length_nil]
  omega

/-- The template with values put in for the placeholders that have one. -/
def expand (value : List Char → Option (List Char)) (cs : List Char) : List Char :=
  match _h : placeholder? cs with
  | some (name, after) => (value name).getD (written name) ++ expand value after
  | none =>
    match cs with
    | [] => []
    | c :: rest => c :: expand value rest
  termination_by cs.length
  decreasing_by
    · exact length_of_placeholder? _h
    · simp

end BenchPlan.Template
