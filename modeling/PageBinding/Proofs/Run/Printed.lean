import PageBinding.Proofs.Outcome
import PageBinding.Run.Printed
import Mathlib.Data.List.Nodup
import Mathlib.Data.List.Perm.Subperm

/-!
When printing a value comes to an end.

Printing goes down into arrays and objects. It never comes back from an element, and it never comes
back from an object that is inside itself; from anything else it does. The bound on how many objects
are inside one another is no other limit: the objects passed on the way down are different, so there
are no more of them than there are objects.
-/
namespace PageBinding

namespace Heap

/-- A value is another, or inside it at some depth. -/
inductive Inside (heap : Heap) (u : Value) : Value → Prop
  | self : Inside heap u u
  | item {v : Value} {items : List Value} :
      v ∈ items → Inside heap u v → Inside heap u (.array items)
  | member {ref : ObjectRef} {fields : Fields Value} {entry : String × Value} :
      heap.get? ref = some fields → entry ∈ fields.entries → Inside heap u entry.2 →
      Inside heap u (.object ref)

/-- A value is inside a member of an object. -/
def Below (heap : Heap) (u : Value) (ref : ObjectRef) : Prop :=
  ∃ fields, heap.get? ref = some fields ∧ ∃ entry ∈ fields.entries, heap.Inside u entry.2

/-- Neither an element is inside a value nor an object that is inside itself. -/
structure Printable (heap : Heap) (v : Value) : Prop where
  noElement : ∀ e, ¬ heap.Inside (.element e) v
  noCycle : ∀ ref, heap.Inside (.object ref) v → ¬ heap.Below (.object ref) ref

variable {heap : Heap} {t u v : Value} {ref : ObjectRef}

theorem Inside.trans (first : heap.Inside t u) (second : heap.Inside u v) : heap.Inside t v := by
  induction second with
  | self => exact first
  | item mem _ ih => exact .item mem ih
  | member found mem _ ih => exact .member found mem ih

theorem Below.inside (below : heap.Below u ref) : heap.Inside u (.object ref) := by
  obtain ⟨fields, found, entry, mem, inside⟩ := below
  exact .member found mem inside

theorem Below.of_inside (below : heap.Below u ref) (inside : heap.Inside t u) :
    heap.Below t ref := by
  obtain ⟨fields, found, entry, mem, deeper⟩ := below
  exact ⟨fields, found, entry, mem, inside.trans deeper⟩

theorem Printable.inside (printable : heap.Printable v) (inside : heap.Inside u v) :
    heap.Printable u :=
  ⟨fun e isElement => printable.noElement e (isElement.trans inside),
    fun ref isObject => printable.noCycle ref (isObject.trans inside)⟩

end Heap

namespace World

variable {w : World} {v : Value} {object : ObjectRef → Except Stuck (List UInt8)}

/-! ## Parts -/

theorem printedAll_ok {vs : List Value} :
    (∃ parts, w.printedAll object vs = .ok parts) ↔
      ∀ v ∈ vs, ∃ part, w.printedWith object v = .ok part := by
  induction vs with
  | nil => exact ⟨fun _ v mem => absurd mem List.not_mem_nil, fun _ => ⟨[], rfl⟩⟩
  | cons v vs ih =>
    rw [List.forall_mem_cons, ← ih, printedAll]
    constructor
    · rintro ⟨_, done⟩
      obtain ⟨part, first, done⟩ := except_bind_ok.1 done
      obtain ⟨parts, rest, -⟩ := except_bind_ok.1 done
      exact ⟨⟨part, first⟩, parts, rest⟩
    · rintro ⟨⟨part, first⟩, parts, rest⟩
      exact ⟨part :: parts, by rw [first, rest]; rfl⟩

theorem printedWith_array {items : List Value} :
    (∃ text, w.printedWith object (.array items) = .ok text) ↔
      ∀ v ∈ items, ∃ part, w.printedWith object v = .ok part := by
  rw [← printedAll_ok, printedWith]
  constructor
  · rintro ⟨_, done⟩
    obtain ⟨parts, all, -⟩ := except_bind_ok.1 done
    exact ⟨parts, all⟩
  · rintro ⟨parts, all⟩
    exact ⟨_, by rw [all]; rfl⟩

theorem printedObject_ok {depth : Nat} {ref : ObjectRef} :
    (∃ text, w.printedObject (depth + 1) ref = .ok text) ↔
      ∀ fields, w.store.heap.get? ref = some fields → ∀ entry ∈ fields.entries,
        ∃ part, w.printedWith (w.printedObject depth) entry.2 = .ok part := by
  have members : (∃ text, w.printedObject (depth + 1) ref = .ok text) ↔
      ∃ parts, w.printedAll (w.printedObject depth)
        (((w.store.heap.get? ref).getD .empty).entries.map fun entry => entry.2) = .ok parts := by
    rw [printedObject]
    constructor
    · rintro ⟨_, done⟩
      obtain ⟨parts, all, -⟩ := except_bind_ok.1 done
      exact ⟨parts, all⟩
    · rintro ⟨parts, all⟩
      exact ⟨_, by rw [all]; rfl⟩
  rw [members, printedAll_ok, List.forall_mem_map]
  cases w.store.heap.get? ref with
  | none => exact ⟨fun _ _ found => (nomatch found), fun _ _ mem => absurd mem List.not_mem_nil⟩
  | some fields =>
    exact ⟨fun parts _ same => Option.some.inj same ▸ parts, fun parts => parts fields rfl⟩

/-! ## What is printed has an end -/

/-- What is inside a value that is printed is printed too, with no larger bound. -/
theorem printed_inside {u : Value} (inside : w.store.heap.Inside u v) {depth : Nat}
    (printed : ∃ text, w.printedWith (w.printedObject depth) v = .ok text) :
    ∃ least ≤ depth, ∃ text, w.printedWith (w.printedObject least) u = .ok text := by
  induction inside generalizing depth with
  | self => exact ⟨depth, Nat.le_refl _, printed⟩
  | item mem _ ih => exact ih (printedWith_array.1 printed _ mem)
  | @member ref _ _ found mem _ ih =>
    cases depth with
    | zero => exact nomatch printed
    | succ depth =>
      obtain ⟨least, le, text⟩ := ih (printedObject_ok.1 printed _ found _ mem)
      exact ⟨least, Nat.le_succ_of_le le, text⟩

/-- An object inside itself would be printed with ever smaller bounds. -/
theorem not_printed_of_below {ref : ObjectRef} (below : w.store.heap.Below (.object ref) ref)
    (depth : Nat) : ¬ ∃ text, w.printedObject depth ref = .ok text := by
  induction depth using Nat.strongRecOn with
  | _ depth ih =>
    intro printed
    obtain ⟨fields, found, entry, mem, inside⟩ := below
    cases depth with
    | zero => exact nomatch printed
    | succ depth =>
      have part := printedObject_ok.1 printed _ found _ mem
      obtain ⟨least, le, again⟩ := printed_inside inside part
      exact ih least (Nat.lt_succ_of_le le) again

theorem printable_of_printed {depth : Nat}
    (printed : ∃ text, w.printedWith (w.printedObject depth) v = .ok text) :
    w.store.heap.Printable v := by
  refine ⟨fun e isElement => ?_, fun ref isObject below => ?_⟩
  · obtain ⟨_, _, _, locked⟩ := printed_inside isElement printed
    cases locked
  · obtain ⟨least, _, again⟩ := printed_inside isObject printed
    exact not_printed_of_below below least again

/-! ## What has an end is printed -/

/-- The objects passed on the way to a value, all of them different. Together with the bound they are
one more than there are objects. -/
structure Passed (heap : Heap) (passed : List ObjectRef) (depth : Nat) (v : Value) : Prop where
  distinct : passed.Nodup
  there : ∀ ref ∈ passed, ref.index < heap.objects.size
  below : ∀ ref ∈ passed, heap.Below v ref
  enough : passed.length + depth = heap.objects.size + 1

namespace Passed

variable {heap : Heap} {passed : List ObjectRef} {depth : Nat}

theorem inside {u : Value} (h : Passed heap passed depth v) (inside : heap.Inside u v) :
    Passed heap passed depth u :=
  ⟨h.distinct, h.there, fun ref mem => (h.below ref mem).of_inside inside, h.enough⟩

theorem length_le (h : Passed heap passed depth v) : passed.length ≤ heap.objects.size := by
  have injective : (passed.map ObjectRef.index).Nodup :=
    List.Nodup.map (fun a b same => by cases a; cases b; cases same; rfl) h.distinct
  have among : passed.map ObjectRef.index ⊆ List.range heap.objects.size := by
    intro i mem
    obtain ⟨ref, isPassed, rfl⟩ := List.mem_map.1 mem
    exact List.mem_range.2 (h.there ref isPassed)
  simpa using (List.subperm_of_subset injective among).length_le

/-- One object further down. -/
theorem member {ref : ObjectRef} {fields : Fields Value} {entry : String × Value}
    (h : Passed heap passed (depth + 1) (.object ref)) (found : heap.get? ref = some fields)
    (mem : entry ∈ fields.entries) (noCycle : ¬ heap.Below (.object ref) ref) :
    Passed heap (ref :: passed) depth entry.2 where
  distinct := List.nodup_cons.2 ⟨fun again => noCycle (h.below ref again), h.distinct⟩
  there := List.forall_mem_cons.2
    ⟨(Array.getElem?_eq_some_iff.1 found).1, h.there⟩
  below := List.forall_mem_cons.2 ⟨⟨fields, found, entry, mem, .self⟩,
    fun r isPassed => (h.below r isPassed).of_inside (.member found mem .self)⟩
  enough := by
    have := h.enough
    simp only [List.length_cons]
    omega

end Passed

/-- If the members of objects one further down are printed, so is a value. -/
theorem printed_of_members {passed : List ObjectRef} {depth : Nat}
    (members : ∀ {ref : ObjectRef}, Passed w.store.heap passed (depth + 1) (.object ref) →
      w.store.heap.Printable (.object ref) → ∃ text, w.printedObject (depth + 1) ref = .ok text) :
    (v : Value) → Passed w.store.heap passed (depth + 1) v → w.store.heap.Printable v →
      ∃ text, w.printedWith (w.printedObject (depth + 1)) v = .ok text
  | .array items, h, printable => by
    refine printedWith_array.2 fun v mem => ?_
    have inside : w.store.heap.Inside v (.array items) := .item mem .self
    exact printed_of_members members v (h.inside inside) (printable.inside inside)
  | .object ref, h, printable => members h printable
  | .element e, h, printable => absurd .self (printable.noElement e)
  | .null, _, _ | .undefined, _, _ | .bool _, _, _ | .string _, _, _ | .bytes _, _, _
  | .number _, _, _ | .single _, _, _ | .int _, _, _ | .uint _, _, _ | .table _, _, _
  | .event _, _, _ => ⟨_, rfl⟩

theorem printed_of_passed {passed : List ObjectRef} {depth : Nat}
    (h : Passed w.store.heap passed depth v) (printable : w.store.heap.Printable v) :
    ∃ text, w.printedWith (w.printedObject depth) v = .ok text := by
  induction depth generalizing passed v with
  | zero =>
    have := h.length_le
    have := h.enough
    omega
  | succ depth ih =>
    refine printed_of_members (fun {ref} h printable => ?_) v h printable
    refine printedObject_ok.2 fun fields found entry mem => ?_
    exact ih (h.member found mem (printable.noCycle ref .self))
      (printable.inside (.member found mem .self))

theorem printedInside_ok : (∃ text, w.printedInside v = .ok text) ↔ w.store.heap.Printable v := by
  refine ⟨printable_of_printed, fun printable => ?_⟩
  have nothing : Passed w.store.heap [] (w.store.heap.objects.size + 1) v :=
    ⟨List.nodup_nil, by simp, by simp, by simp⟩
  exact printed_of_passed nothing printable

/-- What is printed of a value by itself: an event has its detail and its path, any other value is
one. -/
def shownParts (w : World) : Value → List Value
  | .event ref => ((w.event? ref).map fun e => [e.detail, .array (e.path.map .element)]).getD []
  | v => [v]

/-- A value has an end when it is printed: nothing in what is printed is an element or an object inside
itself. -/
def Ends (w : World) (v : Value) : Prop :=
  ∀ u ∈ w.shownParts v, w.store.heap.Printable u

theorem printed_ok : (∃ text, w.printed v = .ok text) ↔ w.Ends v := by
  simp only [Ends, ← printedInside_ok]
  cases v with
  | event ref =>
    rw [printed, shownParts]
    cases w.event? ref with
    | none => simp
    | some e =>
      simp only [Option.map_some, Option.getD_some, List.forall_mem_cons]
      constructor
      · rintro ⟨_, done⟩
        obtain ⟨detail, first, done⟩ := except_bind_ok.1 done
        obtain ⟨path, rest, -⟩ := except_bind_ok.1 done
        exact ⟨⟨detail, first⟩, ⟨path, rest⟩, fun _ mem => absurd mem List.not_mem_nil⟩
      · rintro ⟨⟨detail, first⟩, ⟨path, rest⟩, -⟩
        exact ⟨_, by rw [first, rest]; rfl⟩
  | _ => simp [printed, shownParts]

end World

end PageBinding
