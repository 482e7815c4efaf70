import PageBinding.Page.Basic
import PageBinding.Proofs.Outcome

/-!
What compiling a binding on a page comes to: what the compiler says about its text. The page keeps all
but its log, whether the text compiles or not.
-/
namespace PageBinding.Page

/-- How a page ends up when a text was compiled and something was logged. -/
def compiled (context : Int) (log : List Log.Entry) (p : Page) :
    Except BindingError Program → EStateM.Result PageError Page Intent
  | .ok program => .ok ⟨context, program⟩ { p with log }
  | .error e => .error (.binding e) { p with log }

theorem note_all (level : Log.Level) (message : String)
    (fields : Nat → List (String × Log.FieldValue)) (offsets : List Nat) (p : Page) :
    ∃ log, (forIn offsets PUnit.unit fun offset _ => do
      note level message (fields offset)
      return ForInStep.yield PUnit.unit : PageM PUnit) p = .ok PUnit.unit { p with log } := by
  induction offsets generalizing p with
  | nil => exact ⟨p.log, rfl⟩
  | cons offset rest ih =>
    obtain ⟨log, later⟩ := ih { p with log := p.log ++ [⟨level, message, fields offset⟩] }
    exact ⟨log, by rw [List.forIn_cons]; exact later⟩

theorem generate_eq (text : RawText) (context : Int) (p : Page) :
    ∃ log, generate text context p =
      compiled context log p (Binding.build p.settings.global context text).result := by
  unfold generate
  rw [get_bind]
  obtain ⟨log, noted⟩ := note_all .warn "Global accessor has no property path"
    (fun offset => [("provider", .text providerKey), ("expression", .text text.toText),
      ("offset", .int offset)])
    (Binding.build p.settings.global context text).warnings p
  rw [bind_of_ok noted]
  cases built : (Binding.build p.settings.global context text).result with
  | error e => exact ⟨log, rfl⟩
  | ok program =>
    dsimp only
    by_cases debug : p.settings.debug "intent" = true
    · rw [if_pos debug]
      exact ⟨_, rfl⟩
    · rw [if_neg debug]
      exact ⟨log, rfl⟩

/-- The look at the equals sign finds nothing that compiling would not. -/
theorem parse_eq (text : RawText) (context : Int) (p : Page) :
    ∃ log, parse text context p =
      compiled context log p (Binding.build p.settings.global context text).result := by
  unfold parse
  cases cut : Assignment.ofText text with
  | ok a => exact generate_eq text context p
  | error e =>
    have failed : (Binding.build p.settings.global context text).result = .error e := by
      unfold Binding.build
      rw [cut]
    rw [failed]
    exact ⟨p.log, rfl⟩

end PageBinding.Page
