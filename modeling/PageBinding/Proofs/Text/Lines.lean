import PageBinding.Text.Basic

/-!
Texts on one line. Source text has four characters that end a line, and a text without them can be
found again among the lines of a longer one.
-/
namespace PageBinding.Text

/-- The characters that end a line of source text. -/
def isLineEnd (c : Char) : Bool :=
  c == '\n' || c == '\r' || c == '\u2028' || c == '\u2029'

theorem lineEnd_cases {c : Char} (h : isLineEnd c = true) :
    c = '\n' ∨ c = '\r' ∨ c = '\u2028' ∨ c = '\u2029' := by
  simpa [isLineEnd, or_assoc] using h

/-- A text that ends no line. -/
def OneLine (cs : List Char) : Prop :=
  ∀ c ∈ cs, isLineEnd c = false

instance (cs : List Char) : Decidable (OneLine cs) :=
  decidable_of_iff (cs.all (fun c => !isLineEnd c) = true) (by simp [OneLine])

@[simp]
theorem oneLine_nil : OneLine [] := by
  intro c mem
  cases mem

@[simp]
theorem oneLine_cons {c : Char} {cs : List Char} :
    OneLine (c :: cs) ↔ isLineEnd c = false ∧ OneLine cs :=
  List.forall_mem_cons

@[simp]
theorem oneLine_append {cs ds : List Char} : OneLine (cs ++ ds) ↔ OneLine cs ∧ OneLine ds :=
  List.forall_mem_append

/-- Characters of a class that has none which ends a line. -/
theorem oneLine_of_all {q : Char → Bool} {cs : List Char} (all : cs.all q = true)
    (apart : q '\n' = false ∧ q '\r' = false ∧ q '\u2028' = false ∧ q '\u2029' = false) :
    OneLine cs := by
  intro c mem
  have inside : q c = true := List.all_eq_true.1 all c mem
  cases ends : isLineEnd c with
  | false => rfl
  | true => rcases lineEnd_cases ends with rfl | rfl | rfl | rfl <;> simp_all

/-- Statements on one line each, written with a semicolon and a line feed after them, are the lines
of the whole. -/
theorem splitOnP_lines {xs : List (List Char)} (one : ∀ x ∈ xs, OneLine x) :
    (xs.flatMap (· ++ [';', '\n'])).splitOnP isLineEnd = xs.map (· ++ [';']) ++ [[]] := by
  induction xs with
  | nil => rfl
  | cons x xs ih =>
    have first : OneLine (x ++ [';']) := by
      have here := one x List.mem_cons_self
      simp [here, isLineEnd]
    have cut : (x :: xs).flatMap (· ++ [';', '\n']) =
        (x ++ [';']) ++ '\n' :: xs.flatMap (· ++ [';', '\n']) := by simp
    rw [cut, List.splitOnP_append_cons_of_forall_mem first _ rfl,
      ih fun y mem => one y (List.mem_cons_of_mem _ mem)]
    rfl

/-- The lines of a text can be told from it. -/
theorem lines_cancel {xs ys : List (List Char)} (one : ∀ x ∈ xs, OneLine x)
    (one' : ∀ y ∈ ys, OneLine y)
    (same : xs.flatMap (· ++ [';', '\n']) = ys.flatMap (· ++ [';', '\n'])) : xs = ys := by
  have sameLines := congrArg (List.splitOnP isLineEnd) same
  rw [splitOnP_lines one, splitOnP_lines one'] at sameLines
  have cancel (x y : List Char) (same : x ++ [';'] = y ++ [';']) : x = y :=
    List.append_cancel_right same
  exact (List.map_inj_right cancel).1 (List.append_cancel_right sameLines)

end PageBinding.Text
