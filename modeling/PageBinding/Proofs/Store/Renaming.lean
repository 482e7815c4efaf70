import Mathlib.Logic.Equiv.Defs
import PageBinding.Proofs.Store.Update

/-!
Stores that are equal up to the numbers of their objects. An object gets its number when it is made, so
the same objects made in another order have other numbers. No path can tell such stores apart.
-/
namespace PageBinding

namespace Value

mutual

/-- A value with the objects in it under other numbers. -/
def rename (π : ObjectRef → ObjectRef) : Value → Value
  | object ref => object (π ref)
  | array items => array (renameAll π items)
  | v => v

def renameAll (π : ObjectRef → ObjectRef) : List Value → List Value
  | [] => []
  | v :: vs => rename π v :: renameAll π vs

end

mutual

theorem rename_of_fixed {π : ObjectRef → ObjectRef} :
    (v : Value) → (∀ ref ∈ v.refs, π ref = ref) → v.rename π = v
  | object ref, fixed => by
    rw [rename, fixed ref (by simp [refs])]
  | array items, fixed => by
    rw [rename, renameAll_of_fixed items fixed]
  | null, _ | undefined, _ | bool _, _ | string _, _ | bytes _, _ | number _, _ | single _, _
  | int _, _ | uint _, _ | table _, _ | element _, _ | event _, _ => by
    rw [rename]
    all_goals simp

theorem renameAll_of_fixed {π : ObjectRef → ObjectRef} :
    (vs : List Value) → (∀ ref ∈ refsAll vs, π ref = ref) → renameAll π vs = vs
  | [], _ => by rw [renameAll]
  | v :: vs, fixed => by
    rw [renameAll, rename_of_fixed v fun ref mem => fixed ref (List.mem_append_left _ mem),
      renameAll_of_fixed vs fun ref mem => fixed ref (List.mem_append_right _ mem)]

end

end Value

namespace Store

/-- An object that a context or one of some values leads to. -/
inductive Known (store : Store) (values : List Value) : ObjectRef → Prop
  | context {context : Int} {ref : ObjectRef} : store.context? context = some ref →
      Known store values ref
  | given {v : Value} {ref : ObjectRef} : v ∈ values → ref ∈ v.refs → Known store values ref
  | member {owner ref : ObjectRef} {name : String} {v : Value} : Known store values owner →
      store.heap.member? owner name = some v → ref ∈ v.refs → Known store values ref

/-- The second store is the first with its objects under other numbers. -/
structure Renamed (π : Equiv.Perm ObjectRef) (before after : Store) : Prop where
  contexts : ∀ context, after.context? context = (before.context? context).map π
  members : ∀ ref, before.Known [] ref → ∀ name,
    after.heap.member? (π ref) name = (before.heap.member? ref name).map (Value.rename π)
  isThere : ∀ ref, after.heap.Has (π ref) ↔ before.heap.Has ref

namespace Renamed

variable {π : Equiv.Perm ObjectRef} {before after : Store}

theorem refl (store : Store) : Renamed (Equiv.refl _) store store := by
  have same (v : Value) : v.rename (Equiv.refl ObjectRef) = v := Value.rename_of_fixed v fun _ _ => rfl
  refine ⟨fun context => ?_, fun ref _ name => ?_, fun ref => Iff.rfl⟩
  · cases store.context? context <;> rfl
  · rw [Equiv.refl_apply]
    cases store.heap.member? ref name with
    | none => rfl
    | some v => rw [Option.map_some, same]

theorem follow (h : Renamed π before after) {v : Value}
    (known : ∀ ref ∈ v.refs, before.Known [] ref) (keys : List String) :
    follow after.heap (v.rename π) keys = (follow before.heap v keys).rename π := by
  induction keys generalizing v with
  | nil => simp [Store.follow]
  | cons key keys ih =>
    cases v with
    | object ref =>
      have isKnown : before.Known [] ref := known ref (by simp [Value.refs])
      rw [Value.rename, follow_object, follow_object, h.members ref isKnown]
      cases found : before.heap.member? ref key with
      | none => simp [Value.rename]
      | some u => exact ih fun r mem => .member isKnown found mem
    | _ => simp [Store.follow, Value.rename]

/-- Every path reads the same. -/
theorem read (h : Renamed π before after) (context : Int) (path : String) :
    after.read context path = (before.read context path).rename π := by
  by_cases isPath : path = ""
  · simp [Store.read, isPath, Value.rename]
  · rw [read_eq_follow _ _ isPath, read_eq_follow _ _ isPath, root, root, h.contexts]
    cases found : before.context? context with
    | none => simp [Value.rename]
    | some ref =>
      refine h.follow (v := .object ref) (fun r mem => ?_) (keys path)
      obtain rfl : r = ref := by simpa [Value.refs] using mem
      exact .context found

end Renamed

/-- Two stores differ only in the numbers of objects that another store does not have. -/
def Alike (old one two : Store) : Prop :=
  ∃ π : Equiv.Perm ObjectRef, (∀ ref, old.heap.Has ref → π ref = ref) ∧ Renamed π one two

theorem Alike.refl (old store : Store) : Alike old store store :=
  ⟨_, fun _ _ => rfl, .refl store⟩

end Store

end PageBinding
