import PageBinding.Page.Basic

/-!
Several failures as one error: the error has them as its parts, in order.
-/
namespace PageBinding

namespace PageError

/-- The failures that an error is made of. -/
def parts : PageError → List PageError
  | many causes => causes
  | e => [e]

theorem parts_of_combine {errors : List PageError} (single : ∀ e ∈ errors, e.parts = [e])
    {cause : PageError} (combined : combine errors = some cause) :
    errors ≠ [] ∧ cause.parts = errors := by
  cases errors with
  | nil => cases combined
  | cons e errors =>
    refine ⟨List.cons_ne_nil _ _, ?_⟩
    cases errors with
    | nil =>
      cases combined
      exact single _ List.mem_cons_self
    | cons e' errors =>
      cases combined
      rfl

theorem eq_nil_of_combine {errors : List PageError} (combined : combine errors = none) :
    errors = [] := by
  cases errors with
  | nil => rfl
  | cons e errors => cases errors <;> cases combined

end PageError

namespace Page

/-- Nothing is raised if there are no failures. Otherwise the error has them as its parts, in order. -/
theorem raise_cases {errors : List PageError} (single : ∀ e ∈ errors, e.parts = [e]) (p : Page) :
    errors = [] ∧ raise errors p = .ok () p ∨
      ∃ cause, errors ≠ [] ∧ raise errors p = .error cause p ∧ cause.parts = errors := by
  unfold raise
  cases combined : PageError.combine errors with
  | none => exact .inl ⟨PageError.eq_nil_of_combine combined, rfl⟩
  | some cause =>
    obtain ⟨some, parts⟩ := PageError.parts_of_combine single combined
    exact .inr ⟨cause, some, rfl, parts⟩

end Page

end PageBinding
