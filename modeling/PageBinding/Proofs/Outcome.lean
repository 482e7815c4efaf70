/-!
Computations with a state that may fail: how the steps of a sequence turn out when the sequence
succeeds or fails.
-/
namespace PageBinding

variable {ε σ α β : Type} {s t : σ}

theorem bind_ok {m : EStateM ε σ α} {f : α → EStateM ε σ β} {b : β} :
    (m >>= f) s = .ok b t ↔ ∃ a r, m s = .ok a r ∧ f a r = .ok b t := by
  show EStateM.bind m f s = _ ↔ _
  unfold EStateM.bind
  cases m s with
  | ok a r =>
    constructor
    · intro h
      exact ⟨a, r, rfl, h⟩
    · rintro ⟨_, _, same, h⟩
      cases same
      exact h
  | error e r => simp

theorem bind_error {m : EStateM ε σ α} {f : α → EStateM ε σ β} {e : ε} :
    (m >>= f) s = .error e t ↔ m s = .error e t ∨ ∃ a r, m s = .ok a r ∧ f a r = .error e t := by
  show EStateM.bind m f s = _ ↔ _
  unfold EStateM.bind
  cases m s with
  | ok a r =>
    constructor
    · intro h
      exact .inr ⟨a, r, rfl, h⟩
    · rintro (same | ⟨_, _, same, h⟩)
      · cases same
      · cases same
        exact h
  | error e' r => simp

theorem bind_of_ok {m : EStateM ε σ α} {a : α} {r : σ} (h : m s = .ok a r)
    (f : α → EStateM ε σ β) : (m >>= f) s = f a r := by
  show EStateM.bind m f s = f a r
  unfold EStateM.bind
  rw [h]

theorem bind_of_error {m : EStateM ε σ α} {e : ε} {r : σ} (h : m s = .error e r)
    (f : α → EStateM ε σ β) : (m >>= f) s = .error e r := by
  show EStateM.bind m f s = .error e r
  unfold EStateM.bind
  rw [h]

theorem pure_ok {a b : α} : (pure a : EStateM ε σ α) s = .ok b t ↔ a = b ∧ s = t := by
  show EStateM.Result.ok a s = .ok b t ↔ _
  rw [EStateM.Result.ok.injEq]

theorem throw_ok {e : ε} {b : α} : (throw e : EStateM ε σ α) s = .ok b t ↔ False := by
  show EStateM.Result.error e s = .ok b t ↔ _
  simp

theorem throw_bind {e : ε} (f : α → EStateM ε σ β) :
    ((throw e : EStateM ε σ α) >>= f) s = .error e s := rfl

theorem except_bind_ok {x : Except ε α} {f : α → Except ε β} {b : β} :
    (x >>= f) = .ok b ↔ ∃ a, x = .ok a ∧ f a = .ok b := by
  cases x with
  | ok a => exact ⟨fun h => ⟨a, rfl, h⟩, fun ⟨_, same, h⟩ => by cases same; exact h⟩
  | error e => exact ⟨nofun, nofun⟩

theorem get_bind (f : σ → EStateM ε σ β) : (get >>= f) s = f s s := rfl

theorem modify_bind (g : σ → σ) (f : PUnit → EStateM ε σ β) :
    ((modify g : EStateM ε σ PUnit) >>= f) s = f ⟨⟩ (g s) := rfl

end PageBinding
