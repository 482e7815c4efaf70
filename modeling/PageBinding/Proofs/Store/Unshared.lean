import Mathlib.Data.List.Basic
import PageBinding.Proofs.Store.Sharing

/-!
Stores in which no object is shared. A route leads from a context to an object, through one member
after the other, and if two members or two places of an array hold the same object, then there are two
routes to it. So an object with one route has one place, and none of what it leads to leads back.
-/
namespace PageBinding.Store

/-- A way from a context to an object. Each step names a member of the object before it, and says
which of the objects in the value of that member it goes to. -/
inductive Route (store : Store) (context : Int) : List (String × Nat) → ObjectRef → Prop
  | root {ref : ObjectRef} : store.context? context = some ref → Route store context [] ref
  | step {route : List (String × Nat)} {a b : ObjectRef} {name : String} {v : Value} {i : Nat} :
      Route store context route a → store.heap.member? a name = some v → v.refs[i]? = some b →
      Route store context (route ++ [(name, i)]) b

/-- Every object of the store is there, and no two routes lead to the same one. -/
structure Unshared (store : Store) : Prop where
  isThere : ∀ context route ref, store.Route context route ref → store.heap.Has ref
  once : ∀ context context' route route' ref, store.Route context route ref →
    store.Route context' route' ref → context = context' ∧ route = route'

/-- A value whose objects are there, and none of them is in the store. -/
structure Apart (store : Store) (value : Value) : Prop where
  isThere : ∀ ref, store.heap.Reaches value ref → store.heap.Has ref
  outside : ∀ ref, store.heap.Reaches value ref → ∀ context route, ¬ store.Route context route ref

variable {store : Store} {context : Int} {route : List (String × Nat)} {a b ref : ObjectRef}

theorem Route.points (h : store.Route context route a) (points : store.heap.Points a b) :
    ∃ more, store.Route context (route ++ more) b := by
  obtain ⟨name, v, found, mem⟩ := points
  obtain ⟨i, here⟩ := List.mem_iff_getElem?.1 mem
  exact ⟨[(name, i)], h.step found here⟩

theorem Route.leads (h : store.Route context route a) (leads : store.heap.Leads a b) :
    ∃ more, store.Route context (route ++ more) b := by
  induction leads with
  | refl => exact ⟨[], by simpa using h⟩
  | tail _ points ih =>
    obtain ⟨more, before⟩ := ih
    obtain ⟨last, after⟩ := before.points points
    exact ⟨more ++ last, by simpa using after⟩

/-- What a member of an object leads to has a route through that member. -/
theorem Route.member (h : store.Route context route a) {name : String} {v : Value}
    (found : store.heap.member? a name = some v) (reaches : store.heap.Reaches v ref) :
    ∃ i more, store.Route context (route ++ (name, i) :: more) ref := by
  obtain ⟨first, mem, leads⟩ := reaches
  obtain ⟨i, here⟩ := List.mem_iff_getElem?.1 mem
  obtain ⟨more, whole⟩ := (h.step found here).leads leads
  exact ⟨i, more, by simpa using whole⟩

namespace Unshared

theorem not_back (unshared : store.Unshared) (h : store.Route context route a) {name : String}
    {v : Value} (found : store.heap.member? a name = some v) : ¬ store.heap.Reaches v a := by
  intro reaches
  obtain ⟨i, more, again⟩ := h.member found reaches
  have same := (unshared.once _ _ _ _ _ h again).2
  simp at same

theorem disjoint (unshared : store.Unshared) (h : store.Route context route a)
    {name other : String} {v u : Value} (ne : other ≠ name)
    (found : store.heap.member? a name = some v) (found' : store.heap.member? a other = some u)
    (reaches : store.heap.Reaches v ref) : ¬ store.heap.Reaches u ref := by
  intro reaches'
  obtain ⟨i, more, first⟩ := h.member found reaches
  obtain ⟨j, more', second⟩ := h.member found' reaches'
  have same := (unshared.once _ _ _ _ _ first second).2
  simp only [List.append_cancel_left_eq, List.cons.injEq, Prod.mk.injEq] at same
  exact ne same.1.1.symm

end Unshared

end PageBinding.Store
