import PageBinding.Proofs.Store.Update

/-!
When a value cannot be stored. On the way to the place of a path there may be a value that is neither
an object nor nothing. Such an obstacle is the only thing, besides an empty path and a write that was
called off, that makes storing fail; there is at most one on a path, and the failure names it.
-/
namespace PageBinding.Store

/-- A value that no path leads through. -/
def Solid (v : Value) : Prop :=
  v ≠ .null ∧ ∀ ref, v ≠ .object ref

/-- A part of some keys, not empty and not all of them, that leads from a value to a solid one. -/
structure Obstacle (heap : Heap) (v : Value) (keys part : List String) : Prop where
  nonempty : part ≠ []
  isPrefix : part <+: keys
  strict : part ≠ keys
  solid : Solid (follow heap v part)

variable {heap : Heap} {store after : Store} {ref : ObjectRef} {path key second : String}
variable {done keys part rest : List String} {value v : Value} {e : StoreError}

theorem not_solid_null : ¬ Solid .null :=
  fun h => h.1 rfl

theorem not_solid_object : ¬ Solid (.object ref) :=
  fun h => h.2 ref rfl

theorem follow_solid (solid : Solid v) (key : String) (keys : List String) :
    follow heap v (key :: keys) = .null := by
  cases v with
  | object ref => exact absurd solid not_solid_object
  | _ => rfl

namespace Obstacle

theorem not_null : ¬ Obstacle heap .null keys part := by
  intro h
  have solid := h.solid
  rw [follow_null] at solid
  exact not_solid_null solid

theorem not_single : ¬ Obstacle heap v [key] part := by
  intro h
  rcases List.prefix_cons_iff.1 h.isPrefix with empty | ⟨more, rfl, inner⟩
  · exact h.nonempty empty
  · rw [List.prefix_nil.1 inner] at h
    exact h.strict rfl

theorem cons_iff : Obstacle heap (.object ref) (key :: second :: rest) part ↔
    part = [key] ∧ Solid ((heap.member? ref key).getD .null) ∨
      ∃ more, part = key :: more ∧
        Obstacle heap ((heap.member? ref key).getD .null) (second :: rest) more := by
  constructor
  · intro h
    rcases List.prefix_cons_iff.1 h.isPrefix with empty | ⟨more, rfl, inner⟩
    · exact absurd empty h.nonempty
    · have solid := h.solid
      rw [follow_object] at solid
      cases more with
      | nil => exact .inl ⟨rfl, solid⟩
      | cons next more =>
          refine .inr ⟨_, rfl, List.cons_ne_nil _ _, inner, ?_, solid⟩
          exact fun same => h.strict (congrArg _ same)
  · rintro (⟨rfl, solid⟩ | ⟨more, rfl, inner⟩)
    · exact ⟨List.cons_ne_nil _ _, ⟨_, rfl⟩, by simp, solid⟩
    · refine ⟨List.cons_ne_nil _ _, (List.prefix_cons_inj key).2 inner.isPrefix, ?_, inner.solid⟩
      exact fun same => inner.strict (List.cons.inj same).2

end Obstacle

theorem openMember_solid (solid : Solid ((store.heap.member? ref key).getD .null)) :
    openMember path done ref key store =
      .error (.notAnObject path (Text.joinStrings "." (key :: done).reverse)) store := by
  unfold openMember
  rw [get_bind]
  cases found : (store.heap.member? ref key).getD .null with
  | null => exact absurd found solid.1
  | object next => exact absurd found (solid.2 next)
  | _ => rfl

/-- Writing fails exactly at an obstacle, and then names it. -/
theorem write_error_iff : write path value done ref keys store = .error e after ↔
    after = store ∧ ∃ part, Obstacle store.heap (.object ref) keys part ∧
      e = .notAnObject path (Text.joinStrings "." (done.reverse ++ part)) := by
  induction keys generalizing ref done with
  | nil =>
      refine ⟨nofun, ?_⟩
      rintro ⟨-, part, obstacle, -⟩
      exact absurd (List.prefix_nil.1 obstacle.isPrefix) obstacle.nonempty
  | cons key rest ih =>
      cases rest with
      | nil =>
          refine ⟨nofun, ?_⟩
          rintro ⟨-, part, obstacle, -⟩
          exact absurd obstacle Obstacle.not_single
      | cons second rest =>
          rw [write]
          · simp only [Obstacle.cons_iff]
            obtain ⟨next, found, opened⟩ | ⟨next, middle, missing, opened, blank⟩ |
                ⟨-, notNull, notObject, -⟩ := openMember_cases path done ref key store
            · rw [bind_of_ok opened, ih, found]
              simp [not_solid_object]
            · -- what has to be made is no obstacle, and below it nothing fails
              obtain ⟨last, written⟩ := blank.write path value (key :: done) (second :: rest)
              rw [bind_of_ok opened, written, missing]
              simp [not_solid_null, Obstacle.not_null]
            · have solid : Solid ((store.heap.member? ref key).getD .null) := ⟨notNull, notObject⟩
              rw [bind_of_error (openMember_solid solid)]
              have noMore {more : List String} : ¬ Obstacle store.heap
                  ((store.heap.member? ref key).getD .null) (second :: rest) more := by
                intro h
                obtain ⟨next, more, rfl⟩ := List.exists_cons_of_ne_nil h.nonempty
                have further := h.solid
                rw [follow_solid solid] at further
                exact not_solid_null further
              simp [solid, noMore, eq_comm, and_comm]
          · simp

variable {canceled : Bool} {context : Int}

/-- What makes storing a value fail, with the error that says so. -/
inductive Refused (store : Store) (canceled : Bool) (context : Int) (path : String) :
    StoreError → Prop
  | canceled : canceled = true → Refused store canceled context path .canceled
  | emptyPath : canceled = false → path = "" → Refused store canceled context path .emptyPath
  | obstacle {part : List String} : canceled = false → path ≠ "" →
      Obstacle store.heap (store.root context) (Store.keys path) part →
      Refused store canceled context path (.notAnObject path (Text.joinStrings "." part))

theorem Refused.imp (refused : Refused store canceled context path e)
    (obstacles : ∀ part, Obstacle store.heap (store.root context) (Store.keys path) part →
      Obstacle after.heap (after.root context) (Store.keys path) part) :
    Refused after canceled context path e := by
  cases refused with
  | canceled isCanceled => exact .canceled isCanceled
  | emptyPath notCanceled isEmpty => exact .emptyPath notCanceled isEmpty
  | obstacle notCanceled isPath obstacle => exact .obstacle notCanceled isPath (obstacles _ obstacle)

theorem assign_path_error_iff (isPath : path ≠ "") :
    assign false context path value store = .error e after ↔
      after = store ∧ ∃ part, Obstacle store.heap (store.root context) (Store.keys path) part ∧
        e = .notAnObject path (Text.joinStrings "." part) := by
  rw [assign, if_neg Bool.false_ne_true, if_neg isPath]
  cases found : store.context? context with
  | some ref =>
      rw [bind_of_ok (openContext_of_some found), write_error_iff, root, found]
      rfl
  | none =>
      obtain ⟨opened, blank⟩ := openContext_made found
      obtain ⟨last, written⟩ := blank.write path value [] (Store.keys path)
      rw [bind_of_ok opened, written, root, found]
      simp [Obstacle.not_null]

theorem assign_error_iff : assign canceled context path value store = .error e after ↔
    after = store ∧ Refused store canceled context path e := by
  constructor
  · intro failed
    cases canceled with
    | true =>
        cases failed
        exact ⟨rfl, .canceled rfl⟩
    | false =>
        by_cases isEmpty : path = ""
        · subst isEmpty
          cases failed
          exact ⟨rfl, .emptyPath rfl rfl⟩
        · obtain ⟨same, part, obstacle, rfl⟩ := (assign_path_error_iff isEmpty).1 failed
          exact ⟨same, .obstacle rfl isEmpty obstacle⟩
  · rintro ⟨rfl, refused⟩
    cases refused with
    | canceled isCanceled =>
        subst isCanceled
        rfl
    | emptyPath notCanceled isEmpty =>
        subst notCanceled isEmpty
        rfl
    | obstacle notCanceled isPath obstacle =>
        subst notCanceled
        exact (assign_path_error_iff isPath).2 ⟨rfl, _, obstacle, rfl⟩

/-- A value cannot be stored exactly when the write was called off, the path is empty, or some keys that
the path begins with, not all of them, lead to a value that is neither nothing nor an object. Then the
store is as it was, and the error says which it is. If the keys are those of a path, then the value is
what is read there. -/
theorem assign_fails_iff (canceled : Bool) (context : Int) (path : String) (value : Value)
    (store : Store) :
    ((∃ e after, assign canceled context path value store = .error e after) ↔
      canceled = true ∨ path = "" ∨
        ∃ part, Obstacle store.heap (store.root context) (Store.keys path) part) ∧
    (∀ e after, assign canceled context path value store = .error e after →
      after = store ∧ Refused store canceled context path e) ∧
    ∀ q, q ≠ "" → (Obstacle store.heap (store.root context) (Store.keys path) (Store.keys q) ↔
      Store.keys q <+: Store.keys path ∧ Store.keys q ≠ Store.keys path ∧
        Solid (store.read context q)) := by
  refine ⟨?_, fun e after failed => assign_error_iff.1 failed, fun q isPath => ?_⟩
  · simp only [assign_error_iff]
    constructor
    · rintro ⟨e, after, -, refused⟩
      cases refused with
      | canceled isCanceled => exact .inl isCanceled
      | emptyPath _ isEmpty => exact .inr (.inl isEmpty)
      | obstacle _ _ obstacle => exact .inr (.inr ⟨_, obstacle⟩)
    · intro cause
      cases canceled with
      | true => exact ⟨_, store, rfl, .canceled rfl⟩
      | false =>
          by_cases isEmpty : path = ""
          · exact ⟨_, store, rfl, .emptyPath rfl isEmpty⟩
          · obtain ⟨part, obstacle⟩ := (cause.resolve_left Bool.false_ne_true).resolve_left isEmpty
            exact ⟨_, store, rfl, .obstacle rfl isEmpty obstacle⟩
  · rw [read_eq_follow _ _ isPath]
    constructor
    · intro obstacle
      exact ⟨obstacle.isPrefix, obstacle.strict, obstacle.solid⟩
    · rintro ⟨isPrefix, strict, solid⟩
      exact ⟨keys_ne_nil q, isPrefix, strict, solid⟩

/-- A flag is in the way: the object that would have to be made for the path is not made. -/
theorem nestedStore_fails :
    ∃ e, assign false 1 "a.k.z" .null nestedStore = .error e nestedStore := by
  have laws := assign_fails_iff false 1 "a.k.z" .null nestedStore
  have solid : Solid (nestedStore.read 1 "a.k") := ⟨nofun, nofun⟩
  have obstacle := (laws.2.2 "a.k" (by decide)).2 ⟨by decide, by decide, solid⟩
  obtain ⟨e, after, failed⟩ := laws.1.2 (.inr (.inr ⟨_, obstacle⟩))
  obtain ⟨rfl, -⟩ := laws.2.1 e after failed
  exact ⟨e, failed⟩

end PageBinding.Store
