import Mathlib.Data.List.DropRight
import Mathlib.Data.List.Induction
import PageBinding.Page.Registry

/-!
Histories of a registry. After any registrations and clearings, an element holds what was registered
on it since it was last cleared, in order.
-/
namespace PageBinding.Registry

variable {α : Type}

/-- A change to a registry. -/
inductive Change (α : Type)
  | registered (entry : Registration α)
  | cleared (e : ElementRef)

namespace Change

def clears (e : ElementRef) : Change α → Bool
  | registered _ => false
  | cleared e' => e' = e

/-- What a change registers on an element. -/
def onElement? (e : ElementRef) : Change α → Option (Registration α)
  | registered entry => if entry.element = e then some entry else none
  | cleared _ => none

end Change

def apply (r : Registry α) : Change α → Registry α
  | .registered entry => r.register entry.element entry.event entry.setter
  | .cleared e => r.clear e

/-- The changes since an element was last cleared. -/
def since (e : ElementRef) (changes : List (Change α)) : List (Change α) :=
  changes.rtakeWhile fun c => !c.clears e

/-- What changes have registered on an element for an event since the element was last cleared. -/
def heldSince (e : ElementRef) (event : String) (changes : List (Change α)) : List α :=
  (((since e changes).filterMap (Change.onElement? e)).filter fun entry => entry.event = event).map
    Registration.setter

theorem since_concat (e : ElementRef) (changes : List (Change α)) (c : Change α) :
    since e (changes ++ [c]) = if c.clears e then [] else since e changes ++ [c] := by
  unfold since
  cases clears : c.clears e with
  | false => simp [List.rtakeWhile_concat_pos, clears]
  | true => simp [List.rtakeWhile_concat_neg, clears]

theorem ofElement_apply (r : Registry α) (c : Change α) (e : ElementRef) :
    (r.apply c).ofElement e =
      if c.clears e then [] else r.ofElement e ++ (c.onElement? e).toList := by
  cases c with
  | registered entry =>
    obtain ⟨element, event, setter⟩ := entry
    by_cases here : element = e
    · simp [apply, register, ofElement, Change.clears, Change.onElement?, here]
    · simp [apply, register, ofElement, Change.clears, Change.onElement?, here]
  | cleared e' =>
    by_cases here : e' = e
    · subst here
      simp [apply, clear, ofElement, Change.clears, List.filter_filter]
    · simp only [apply, clear, ofElement, Change.clears, here, List.filter_filter]
      simp only [Change.onElement?, decide_false, Option.toList_none, List.append_nil]
      apply List.filter_congr
      intro entry _
      by_cases on : entry.element = e
      · simp [on, Ne.symm here]
      · simp [on]

theorem ofElement_replay (changes : List (Change α)) (e : ElementRef) :
    (changes.foldl apply empty).ofElement e =
      (since e changes).filterMap (Change.onElement? e) := by
  induction changes using List.reverseRecOn with
  | nil => rfl
  | append_singleton changes c ih =>
    rw [List.foldl_concat, ofElement_apply, since_concat, ih]
    by_cases clears : c.clears e = true
    · simp [clears]
    · cases on : c.onElement? e <;> simp [clears, on]

theorem setters_replay (changes : List (Change α)) (e : ElementRef) (event : String) :
    (changes.foldl apply empty).setters e event = heldSince e event changes := by
  rw [setters, ofElement_replay]
  rfl

end PageBinding.Registry
