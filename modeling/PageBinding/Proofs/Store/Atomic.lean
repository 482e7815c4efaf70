import PageBinding.Proofs.Outcome
import PageBinding.Store.Basic

/-!
Storing a value at a path is all or nothing. It fails only at a part of the path that is there and
is no object. A part that has to be made is empty, so no later part can be in the way: once the
first object is made, nothing can fail any more.
-/
namespace PageBinding

/-! ## New objects -/

namespace Heap

variable (heap : Heap) (ref : ObjectRef) (key name : String)

theorem get?_setMember (value : Value) (other : ObjectRef) :
    (heap.setMember ref key value).get? other =
      if ref.index = other.index then (heap.get? other).map (·.put key value)
      else heap.get? other :=
  Array.getElem?_modify

theorem get?_alloc (fields : Fields Value) :
    (heap.alloc fields).2.get? (heap.alloc fields).1 = some fields :=
  Array.getElem?_push_size

/-- A new object has no members but the one that was written, if it was written to that object. -/
theorem member?_of_new (value : Value) :
    ((heap.alloc .empty).2.setMember ref key value).member? (heap.alloc .empty).1 name = none ∨
      ((heap.alloc .empty).2.setMember ref key value).member? (heap.alloc .empty).1 name =
        some value := by
  unfold member?
  rw [get?_setMember, get?_alloc]
  split
  · by_cases same : name = key
    · subst same
      exact .inr (Fields.get?_put_self .empty name value)
    · exact .inl (Fields.get?_put_ne same .empty value)
  · exact .inl (Fields.get?_empty name)

end Heap

namespace Store

/-- A part of a path that cannot be in the way: it has no members other than itself. -/
def Blank (store : Store) (ref : ObjectRef) : Prop :=
  ∀ key, (store.heap.member? ref key).getD .null = .null ∨
    (store.heap.member? ref key).getD .null = .object ref

variable {store after : Store} {ref : ObjectRef} {path key : String} {done keys : List String}
variable {value : Value}

/-! ## One part of a path -/

/-- What comes of a part of a path: an object that is there, a new one, or a failure that changes
nothing. -/
theorem openMember_cases (path : String) (done : List String) (ref : ObjectRef) (key : String)
    (store : Store) :
    (∃ next, (store.heap.member? ref key).getD .null = .object next ∧
      openMember path done ref key store = .ok next store) ∨
    (∃ next after, (store.heap.member? ref key).getD .null = .null ∧
      openMember path done ref key store = .ok next after ∧ Blank after next) ∨
    ∃ e, (store.heap.member? ref key).getD .null ≠ .null ∧
      (∀ next, (store.heap.member? ref key).getD .null ≠ .object next) ∧
      openMember path done ref key store = .error e store := by
  unfold openMember
  rw [get_bind]
  cases found : (store.heap.member? ref key).getD .null with
  | object next => exact .inl ⟨next, rfl, rfl⟩
  | null =>
    refine .inr (.inl ⟨_, _, rfl, rfl, fun name => ?_⟩)
    obtain missing | written :=
      store.heap.member?_of_new ref key name (.object (store.heap.alloc .empty).1)
    · exact .inl (congrArg (Option.getD · Value.null) missing)
    · exact .inr (congrArg (Option.getD · Value.null) written)
  | _ => exact .inr (.inr ⟨_, by simp, by simp, rfl⟩)

theorem Blank.openMember (h : Blank store ref) (path : String) (done : List String)
    (key : String) :
    ∃ next after, openMember path done ref key store = .ok next after ∧ Blank after next := by
  obtain ⟨next, found, opened⟩ | ⟨next, after, -, opened, blank⟩ | ⟨e, notNull, notObject, -⟩ :=
    openMember_cases path done ref key store
  · obtain missing | itself := h key
    · rw [missing] at found
      cases found
    · rw [itself] at found
      cases found
      exact ⟨ref, store, opened, h⟩
  · exact ⟨next, after, opened, blank⟩
  · exact ((h key).elim notNull (notObject ref)).elim

/-! ## Whole paths -/

/-- Below a new object nothing fails. -/
theorem Blank.write (h : Blank store ref) (path : String) (value : Value) (done keys : List String) :
    ∃ after, write path value done ref keys store = .ok () after := by
  induction keys generalizing store ref done with
  | nil => exact ⟨store, rfl⟩
  | cons key rest ih =>
    cases rest with
    | nil => exact ⟨_, rfl⟩
    | cons second rest =>
      obtain ⟨next, middle, opened, blank⟩ := h.openMember path done key
      obtain ⟨after, written⟩ := ih blank (key :: done)
      refine ⟨after, ?_⟩
      rw [Store.write, bind_of_ok opened, written]
      simp

theorem write_error {e : StoreError} (h : write path value done ref keys store = .error e after) :
    after = store := by
  induction keys generalizing store ref done with
  | nil => cases h
  | cons key rest ih =>
    cases rest with
    | nil => cases h
    | cons second rest =>
      rw [write] at h
      · obtain ⟨next, -, opened⟩ | ⟨next, middle, -, opened, blank⟩ | ⟨e', -, -, failed⟩ :=
          openMember_cases path done ref key store
        · rw [bind_of_ok opened] at h
          exact ih h
        · -- an object was made, so the rest cannot have failed
          obtain ⟨last, written⟩ := blank.write path value (key :: done) (second :: rest)
          rw [bind_of_ok opened, written] at h
          cases h
        · rw [bind_of_error failed] at h
          cases h
          rfl
      · simp

theorem openContext_of_some {context : Int} (found : store.context? context = some ref) :
    openContext context store = .ok ref store := by
  unfold openContext
  rw [get_bind, found]
  rfl

theorem openContext_cases (context : Int) (store : Store) :
    (∃ ref, openContext context store = .ok ref store) ∨
      ∃ ref after, openContext context store = .ok ref after ∧ Blank after ref := by
  unfold openContext
  rw [get_bind]
  cases store.context? context with
  | some ref => exact .inl ⟨ref, rfl⟩
  | none =>
    refine .inr ⟨_, _, rfl, fun key => .inl ?_⟩
    show ((((store.heap.alloc .empty).2.get? (store.heap.alloc .empty).1).bind
      (·.get? key)).getD .null) = .null
    rw [Heap.get?_alloc]
    rfl

/-- A value that could not be stored has left the store as it was. -/
theorem assign_error {canceled : Bool} {context : Int} {e : StoreError}
    (h : assign canceled context path value store = .error e after) : after = store := by
  unfold assign at h
  split at h
  · cases h
    rfl
  · split at h
    · cases h
      rfl
    · obtain ⟨ref, opened⟩ | ⟨ref, middle, opened, blank⟩ := openContext_cases context store
      · rw [bind_of_ok opened] at h
        exact write_error h
      · obtain ⟨last, written⟩ := blank.write path value [] (keys path)
        rw [bind_of_ok opened, written] at h
        cases h

end Store

end PageBinding
