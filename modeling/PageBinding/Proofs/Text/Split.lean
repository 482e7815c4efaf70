import PageBinding.Text.Basic

/-!
Splitting a text at a character, by the library's function on lists.
-/
namespace PageBinding.Text

theorem splitOn_eq (separator : Char) (cs : List Char) :
    splitOn separator cs = cs.splitOn separator := by
  induction cs with
  | nil => rfl
  | cons c cs ih =>
    rw [splitOn, ih, List.splitOn_eq_splitOnP, List.splitOn_eq_splitOnP,
      List.splitOnP_cons_eq_if_modifyHead]
    obtain ⟨part, parts, shape⟩ :=
      List.exists_cons_of_ne_nil (List.splitOnP_ne_nil (· == separator) cs)
    simp [shape]

theorem splitOn_append_cons (separator : Char) (xs ys : List Char) :
    splitOn separator (xs ++ separator :: ys) = splitOn separator xs ++ splitOn separator ys := by
  simp only [splitOn_eq, List.splitOn_eq_splitOnP]
  exact List.splitOnP_append_cons xs ys (by simp)

theorem splitOn_of_not_mem {separator : Char} {cs : List Char} (none : separator ∉ cs) :
    cs.splitOn separator = [cs] := by
  rw [List.splitOn_eq_splitOnP, List.splitOnP_eq_singleton]
  intro c mem
  simpa using fun same : c = separator => none (same ▸ mem)

end PageBinding.Text
