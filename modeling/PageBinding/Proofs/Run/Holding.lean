import PageBinding.Proofs.Store.Sharing
import PageBinding.Run.World

/-!
Who leads to an object. Each context of the data store is a holder of its own, and the page, with the
properties of its elements and the details of events, is one more.

A step of a program gives a value to one holder. If it gives no object that another holder leads to,
then holders stay apart that were apart, and if it writes to no object that a context leads to, then
the context stays as it was.
-/
namespace PageBinding

/-- What leads to objects: a context of the data store, or the page with its elements and events. -/
inductive Holder
  | context (id : Int)
  | page
  deriving DecidableEq

namespace World

/-- The objects that a holder refers to at once. -/
inductive Root (w : World) : Holder → ObjectRef → Prop
  | context {id : Int} {ref : ObjectRef} :
      w.store.context? id = some ref → Root w (.context id) ref
  | property {key : Nat × String} {v : Value} {ref : ObjectRef} :
      (key, v) ∈ w.document.properties → ref ∈ v.refs → Root w .page ref
  | detail {e : Event} {ref : ObjectRef} : e ∈ w.events → ref ∈ e.detail.refs → Root w .page ref

/-- A holder leads to an object. -/
def Holds (w : World) (h : Holder) (ref : ObjectRef) : Prop :=
  ∃ root, w.Root h root ∧ w.store.heap.Leads root ref

/-- Every object that is held is there. -/
def Closed (w : World) : Prop :=
  ∀ h ref, w.Holds h ref → w.store.heap.Has ref

/-- No object has two holders. -/
def Separate (w : World) : Prop :=
  ∀ h h' ref, w.Holds h ref → w.Holds h' ref → h = h'

/-- A context reads as it did at every path, and every object that it leads to is as it was. -/
def Untouched (w after : World) (context : Int) : Prop :=
  (∀ path, after.store.read context path = w.store.read context path) ∧
    ∀ ref, w.Holds (.context context) ref → after.store.heap.get? ref = w.store.heap.get? ref

theorem Holds.step {w : World} {h : Holder} {a b : ObjectRef} (held : w.Holds h a)
    (points : w.store.heap.Points a b) : w.Holds h b := by
  obtain ⟨root, isRoot, path⟩ := held
  exact ⟨root, isRoot, path.tail points⟩

variable {w after : World} {h k : Holder} {ref : ObjectRef}

/-- What is held after a step was held before it, or was given. -/
theorem holds_of_step (given : Holder → ObjectRef → Prop)
    (roots : ∀ k ref, after.Root k ref → w.Root k ref ∨ given k ref)
    (held : ∀ k a b, w.Holds k a → after.store.heap.Points a b →
      w.store.heap.Points a b ∨ given k b)
    (inner : ∀ k a b, given k a → after.store.heap.Points a b → given k b)
    (holds : after.Holds k ref) : w.Holds k ref ∨ given k ref := by
  obtain ⟨root, isRoot, path⟩ := holds
  induction path with
  | refl =>
    rcases roots k root isRoot with before | isGiven
    · exact .inl ⟨root, before, .refl⟩
    · exact .inr isGiven
  | tail _ points ih =>
    rcases ih with before | isGiven
    · exact (held k _ _ before points).imp_left before.step
    · exact .inr (inner k _ _ isGiven points)

theorem untouched_of_same {context : Int}
    (same : after.store.context? context = w.store.context? context)
    (kept : ∀ ref, w.Holds (.context context) ref →
      after.store.heap.get? ref = w.store.heap.get? ref) : Untouched w after context := by
  refine ⟨fun path => ?_, kept⟩
  unfold Store.read
  rw [same]
  split
  · rfl
  · split
    · rename_i ref found
      apply Store.follow_congr
      rintro r ⟨root, mem, path⟩
      obtain rfl : root = ref := by simpa [Value.refs] using mem
      exact kept r ⟨root, .context found, path⟩
    · rfl

/-! ## Giving a value -/

/-- A holder is given a value: it is put into an object that the holder leads to, or what the holder
refers to is exchanged for it. -/
structure Gives (w after : World) (h : Holder) (written : Option ObjectRef) (value : Value) :
    Prop where
  grown : w.store.heap.Grows after.store.heap written value
  owned : ∀ ref, written = some ref → w.Holds h ref
  contexts : ∀ id, h ≠ .context id → after.store.context? id = w.store.context? id
  roots : ∀ k ref, after.Root k ref → w.Root k ref ∨
    k = h ∧ (ref ∈ value.refs ∨ w.store.heap.Made after.store.heap ref)

namespace Gives

variable {written : Option ObjectRef} {value : Value}

/-- Whoever leads to the object that is written comes to hold what is given, and no one else. -/
theorem holds (gives : Gives w after h written value) (closed : w.Closed) (gets : Holder → Prop)
    (owner : gets h) (writes : ∀ k ref, written = some ref → w.Holds k ref → gets k)
    (held : after.Holds k ref) :
    w.Holds k ref ∨
      gets k ∧ (w.store.heap.Reaches value ref ∨ w.store.heap.Made after.store.heap ref) := by
  have direct {r : ObjectRef} (mem : r ∈ value.refs ∨ w.store.heap.Made after.store.heap r) :
      w.store.heap.Reaches value r ∨ w.store.heap.Made after.store.heap r :=
    mem.imp_left fun mem => ⟨r, mem, .refl⟩
  refine holds_of_step (fun k r => gets k ∧ (w.store.heap.Reaches value r ∨
    w.store.heap.Made after.store.heap r)) (fun k r isRoot => ?_) (fun k a b before points => ?_)
    (fun k a b isGiven points => ⟨isGiven.1, ?_⟩) held
  · refine (gives.roots k r isRoot).imp_right fun ⟨same, mem⟩ => ⟨?_, direct mem⟩
    rw [same]
    exact owner
  · refine (gives.grown.points a b points).imp_right fun ⟨place, mem⟩ => ⟨?_, direct mem⟩
    rcases place with isWritten | isNew
    · exact writes k a isWritten before
    · exact absurd (closed k a before) isNew
  · rcases gives.grown.points a b points with before | ⟨-, mem⟩
    · rcases isGiven.2 with reached | made
      · exact .inl (reached.step before)
      · exact absurd before.has made.1
    · exact direct mem

theorem closed (gives : Gives w after h written value) (closed : w.Closed)
    (known : ∀ ref, w.store.heap.Reaches value ref → w.store.heap.Has ref) : after.Closed := by
  intro k ref held
  rcases gives.holds closed (fun _ => True) trivial (fun _ _ _ _ => trivial) held with
    before | ⟨-, reached | made⟩
  · exact gives.grown.has (closed k ref before)
  · exact gives.grown.has (known ref reached)
  · exact made.2

theorem separate (gives : Gives w after h written value) (closed : w.Closed)
    (separate : w.Separate)
    (own : ∀ ref k, w.store.heap.Reaches value ref → w.Holds k ref → k = h) : after.Separate := by
  have only (k : Holder) (ref : ObjectRef) (isWritten : written = some ref)
      (held : w.Holds k ref) : k = h :=
    separate k h ref held (gives.owned ref isWritten)
  have before {k k' : Holder} {ref : ObjectRef} (held : w.Holds k ref)
      (given : k' = h ∧ (w.store.heap.Reaches value ref ∨ w.store.heap.Made after.store.heap ref)) :
      k = k' := by
    obtain ⟨rfl, reached | made⟩ := given
    · exact own ref k reached held
    · exact absurd (closed k ref held) made.1
  intro k k' ref held held'
  rcases gives.holds closed (· = h) rfl only held with first | given
  · rcases gives.holds closed (· = h) rfl only held' with second | given'
    · exact separate k k' ref first second
    · exact before first given'
  · rcases gives.holds closed (· = h) rfl only held' with second | given'
    · exact (before second given).symm
    · exact given.1.trans given'.1.symm

theorem untouched (gives : Gives w after h written value) (closed : w.Closed) {context : Int}
    (other : h ≠ .context context)
    (apart : ∀ ref, written = some ref → ¬ w.Holds (.context context) ref) :
    Untouched w after context := by
  refine untouched_of_same (gives.contexts context other) fun ref held => ?_
  exact gives.grown.kept ref (closed _ ref held) fun isWritten => apart ref isWritten held

end Gives

/-! ## Making an object -/

/-- The world with a new object that nothing refers to yet. -/
def make (w : World) (fields : Fields Value) : World :=
  { w with store.heap := (w.store.heap.alloc fields).2 }

theorem has_make (fields : Fields Value) (isThere : w.store.heap.Has ref) :
    (w.make fields).store.heap.Has ref := by
  have size : (w.make fields).store.heap.objects.size = w.store.heap.objects.size + 1 :=
    Array.size_push _
  rw [Heap.Has, size]
  exact Nat.lt_succ_of_lt isThere

theorem get?_make (closed : w.Closed) (fields : Fields Value) (held : w.Holds k ref) :
    (w.make fields).store.heap.get? ref = w.store.heap.get? ref := by
  refine (Array.getElem?_push ..).trans (if_neg ?_)
  exact Nat.ne_of_lt (closed k ref held)

theorem holds_make (closed : w.Closed) {fields : Fields Value} (held : (w.make fields).Holds k ref) :
    w.Holds k ref := by
  have sameRoot (k : Holder) (ref : ObjectRef) (isRoot : (w.make fields).Root k ref) :
      w.Root k ref := by
    cases isRoot with
    | context found => exact .context found
    | property mem inside => exact .property mem inside
    | detail mem inside => exact .detail mem inside
  rcases holds_of_step (fun _ _ => False) (fun k r isRoot => .inl (sameRoot k r isRoot))
    (fun k a b before points => .inl (Heap.points_of_get? (get?_make closed fields before) points))
    (fun _ _ _ none _ => none) held with before | none
  · exact before
  · exact none.elim

end World

end PageBinding
