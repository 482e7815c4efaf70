import PageBinding.Proofs.Page.Failures
import PageBinding.Proofs.Page.Registrations

/-!
An event on an element after any history of registrations. What is registered there for the event is
called, each registration once and in order. This is settled when the event begins: what is called may
fail, and may register and clear as it likes.
-/
namespace PageBinding

namespace Registry

variable {α σ ε : Type} {act : α → EStateM (Halt ε) σ Unit}

/-- Calls that come back, one after the other, each in the state that the one before has left. Each is
recorded with its failure, if it failed. -/
inductive Calls (act : α → EStateM (Halt ε) σ Unit) : σ → List (α × Option ε) → σ → Prop
  | nothing (s : σ) : Calls act s [] s
  | ok {a : α} {s t u : σ} {calls : List (α × Option ε)} : act a s = .ok () t → Calls act t calls u →
      Calls act s ((a, none) :: calls) u
  | failed {a : α} {e : ε} {s t u : σ} {calls : List (α × Option ε)} :
      act a s = .error (.failed e) t → Calls act t calls u → Calls act s ((a, some e) :: calls) u

/-- All calls are made, or those before the first that never comes back. -/
theorem runAll_calls (act : α → EStateM (Halt ε) σ Unit) (as : List α) (s : σ) :
    ∃ calls t later, Calls act s calls t ∧ calls.map Prod.fst ++ later = as ∧
      (later = [] ∧ runAll act as s = (.ok (calls.filterMap Prod.snd), t) ∨
        ∃ a rest why u, later = a :: rest ∧ act a t = .error (.never why) u ∧
          runAll act as s = (.error why, u)) := by
  induction as generalizing s with
  | nil => exact ⟨[], s, [], .nothing s, rfl, .inl ⟨rfl, rfl⟩⟩
  | cons a as ih =>
      rw [runAll, EStateM.run]
      cases called : act a s with
      | ok u t =>
          obtain ⟨calls, t', later, made, inOrder, outcome⟩ := ih t
          exact ⟨(a, none) :: calls, t', later, .ok called made, by simp [inOrder], outcome⟩
      | error halt t =>
          cases halt with
          | never why =>
              exact ⟨[], s, a :: as, .nothing s, rfl, .inr ⟨a, as, why, t, rfl, called, rfl⟩⟩
          | failed e =>
              obtain ⟨calls, t', later, made, inOrder, outcome⟩ := ih t
              refine ⟨(a, some e) :: calls, t', later, .failed called made, by simp [inOrder], ?_⟩
              rcases outcome with ⟨allMade, ran⟩ | ⟨a', rest, why, u, next, never, ran⟩
              · exact .inl ⟨allMade, by simp [ran, Except.map]⟩
              · exact .inr ⟨a', rest, why, u, next, never, by simp [ran, Except.map]⟩

end Registry

namespace Page

open Registry (Change Calls)

theorem dispatchWith_eq (act : Setter → PageRun Unit) (e : ElementRef) (type : String) (p : Page) :
    ∃ calls q later, Calls act p calls q ∧
      calls.map Prod.fst ++ later = p.registry.setters e type ∧
      (later = [] ∧ dispatchWith act e type p =
          returning (raise ((calls.filterMap Prod.snd).map (.at type))) q ∨
        ∃ s rest why q', later = s :: rest ∧ act s q = .error (.never why) q' ∧
          dispatchWith act e type p = .error (.never why) q') := by
  obtain ⟨calls, q, later, made, inOrder, outcome⟩ :=
    Registry.runAll_calls act (p.registry.setters e type) p
  refine ⟨calls, q, later, made, inOrder, ?_⟩
  unfold dispatchWith
  rcases outcome with ⟨allMade, ran⟩ | ⟨s, rest, why, q', next, never, ran⟩
  · rw [ran]
    exact .inl ⟨allMade, rfl⟩
  · rw [ran]
    exact .inr ⟨s, rest, why, q', next, never, rfl⟩

/-- After any registrations and clearings, an event on an element calls what was registered there for its
type since the element was last cleared: each registration once and in order, in the state that the call
before has left. Whatever the calls do, also to the registrations, and whether they fail or not, does not
change which are made; only a call that never comes back has none after it, and then the event never
comes back either. Otherwise the event fails exactly if some call fails, and then with the failures of
the calls, in their order and each under the type of the event. An element holds as many registrations
as were made on it since it was last cleared. -/
theorem dispatch_calls_held (act : Setter → PageRun Unit) (page : Page)
    (changes : List (Change Setter)) (e : ElementRef) (type : String) :
    let p : Page := { page with registry := changes.foldl Registry.apply .empty }
    (∃ calls q later, Calls act p calls q ∧
      calls.map Prod.fst ++ later = Registry.heldSince e type changes ∧
      (later = [] ∧
          ((∃ q', dispatchWith act e type p = .ok () q') ↔ ∀ call ∈ calls, call.2 = none) ∧
          (∀ q', dispatchWith act e type p = .ok () q' → q' = q) ∧
          (∀ halt q', dispatchWith act e type p = .error halt q' →
            q' = q ∧ ∃ cause, halt = .failed cause ∧
              cause.parts = (calls.filterMap Prod.snd).map (.at type)) ∨
        ∃ s rest why q', later = s :: rest ∧ act s q = .error (.never why) q' ∧
          dispatchWith act e type p = .error (.never why) q')) ∧
    (∀ event canceled context, dispatch e event type canceled context =
      dispatchWith (fun s => invoke s (some event) canceled context) e type) ∧
    p.registry.size e =
      ((Registry.since e changes).filterMap (Registry.Change.onElement? e)).length := by
  intro p
  have held : p.registry.setters e type = Registry.heldSince e type changes :=
    Registry.setters_replay changes e type
  refine ⟨?_, fun _ _ _ => rfl, congrArg List.length (Registry.ofElement_replay changes e)⟩
  obtain ⟨calls, q, later, called, inOrder, outcome⟩ := dispatchWith_eq act e type p
  refine ⟨calls, q, later, called, inOrder.trans held, outcome.imp_left ?_⟩
  rintro ⟨allMade, dispatched⟩
  have single : ∀ e ∈ (calls.filterMap Prod.snd).map (PageError.at type), e.parts = [e] := by
    intro e mem
    obtain ⟨cause, -, rfl⟩ := List.mem_map.1 mem
    rfl
  have allOk : (calls.filterMap Prod.snd).map (PageError.at type) = [] ↔
      ∀ call ∈ calls, call.2 = none := by
    rw [List.map_eq_nil_iff, List.filterMap_eq_nil_iff]
  rw [dispatched, ← allOk, returning]
  obtain ⟨nothing, raised⟩ | ⟨cause, something, raised, parts⟩ := raise_cases single q
  · rw [raised]
    refine ⟨allMade, iff_of_true ⟨q, rfl⟩ nothing, ?_, ?_⟩
    · intro q' same
      cases same
      rfl
    · intro halt q' same
      cases same
  · rw [raised]
    refine ⟨allMade, iff_of_false (by simp) something, ?_, ?_⟩
    · intro q' same
      cases same
    · intro halt q' same
      cases same
      exact ⟨rfl, cause, rfl, parts⟩

end Page

end PageBinding
