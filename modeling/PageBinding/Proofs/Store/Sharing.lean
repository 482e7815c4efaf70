import Mathlib.Logic.Relation
import PageBinding.Proofs.Store.Atomic

/-!
Objects are shared: a value that refers to an object leads to all that the object leads to, and a
write to the object is seen from everywhere that leads to it.

`Grows` says how far a write can be seen at all. It makes objects, and of those that were there it
changes one, the last on the path that is written. Storing a value and replacing a context are no
more than that.
-/
namespace PageBinding

open Relation (ReflTransGen)

/-! ## Leading to objects -/

theorem ObjectRef.eq_of_index {a b : ObjectRef} (same : a.index = b.index) : a = b := by
  cases a
  cases b
  exact congrArg _ same

namespace Value

mutual

/-- The objects in a value: the value itself, or what stands in an array, but not what stands in
another object. -/
def refs : Value → List ObjectRef
  | object ref => [ref]
  | array items => refsAll items
  | _ => []

def refsAll : List Value → List ObjectRef
  | [] => []
  | v :: vs => refs v ++ refsAll vs

end

theorem mem_refsAll {vs : List Value} {ref : ObjectRef} :
    ref ∈ refsAll vs ↔ ∃ v ∈ vs, ref ∈ v.refs := by
  induction vs with
  | nil => simp [refsAll]
  | cons v vs ih => simp [refsAll, ih]

end Value

namespace Heap

/-- The object is there. -/
def Has (heap : Heap) (ref : ObjectRef) : Prop :=
  ref.index < heap.objects.size

/-- An object refers to another one in one of its members. -/
def Points (heap : Heap) (a b : ObjectRef) : Prop :=
  ∃ name v, heap.member? a name = some v ∧ b ∈ v.refs

/-- An object is another one or refers to it, at once or through others. -/
def Leads (heap : Heap) : ObjectRef → ObjectRef → Prop :=
  ReflTransGen heap.Points

/-- A value leads to an object. -/
def Reaches (heap : Heap) (v : Value) (ref : ObjectRef) : Prop :=
  ∃ a ∈ v.refs, heap.Leads a ref

variable {heap before after : Heap} {a b ref : ObjectRef} {v : Value}

theorem has_of_get? {fields : Fields Value} (found : heap.get? ref = some fields) : heap.Has ref :=
  (Array.getElem?_eq_some_iff.1 found).1

theorem Points.has (h : heap.Points a b) : heap.Has a := by
  obtain ⟨name, v, found, -⟩ := h
  obtain ⟨fields, isThere, -⟩ := Option.bind_eq_some_iff.1 found
  exact has_of_get? isThere

theorem Reaches.step (h : heap.Reaches v a) (points : heap.Points a b) : heap.Reaches v b := by
  obtain ⟨root, mem, path⟩ := h
  exact ⟨root, mem, path.tail points⟩

theorem member?_of_get? (same : after.get? ref = before.get? ref) (name : String) :
    after.member? ref name = before.member? ref name := by
  rw [member?, member?, same]

theorem points_of_get? (same : after.get? a = before.get? a) (h : after.Points a b) :
    before.Points a b := by
  obtain ⟨name, v, found, mem⟩ := h
  rw [member?_of_get? same] at found
  exact ⟨name, v, found, mem⟩

end Heap

namespace Store

variable {before after : Heap} {ref : ObjectRef}

theorem follow_reaches {heap : Heap} {v : Value} {keys : List String}
    (mem : ref ∈ (follow heap v keys).refs) : heap.Reaches v ref := by
  induction keys generalizing v with
  | nil => exact ⟨ref, mem, .refl⟩
  | cons key keys ih =>
    cases v with
    | object owner =>
      obtain ⟨first, inside, path⟩ := ih mem
      cases found : heap.member? owner key with
      | none => simp [found, Value.refs] at inside
      | some u =>
        rw [found] at inside
        exact ⟨owner, by simp [Value.refs], .head ⟨key, u, found, inside⟩ path⟩
    | _ => simp [follow, Value.refs] at mem

/-- Reading sees only objects that the value read from leads to. -/
theorem follow_congr {v : Value} (keys : List String)
    (same : ∀ r, before.Reaches v r → after.get? r = before.get? r) :
    follow after v keys = follow before v keys := by
  induction keys generalizing v with
  | nil => simp [follow]
  | cons key keys ih =>
    cases v with
    | object owner =>
      have here := same owner ⟨owner, by simp [Value.refs], .refl⟩
      rw [follow, follow, Heap.member?_of_get? here]
      apply ih
      rintro r ⟨first, mem, path⟩
      apply same
      cases found : before.member? owner key with
      | none => simp [found, Value.refs] at mem
      | some u =>
        rw [found] at mem
        exact ⟨owner, by simp [Value.refs], .head ⟨key, u, found, mem⟩ path⟩
    | _ => simp [follow]

end Store

/-! ## Growing -/

namespace Heap

/-- The heap with a new object as a member of another one. -/
def link (heap : Heap) (ref : ObjectRef) (key : String) : Heap :=
  (heap.alloc .empty).2.setMember ref key (.object (heap.alloc .empty).1)

/-- An object was made. -/
def Made (before after : Heap) (ref : ObjectRef) : Prop :=
  ¬ before.Has ref ∧ after.Has ref

/-- Objects were made, and of those that were there only `written` was changed. What is new in it and
in them is `value` and the objects that were made. -/
structure Grows (before after : Heap) (written : Option ObjectRef) (value : Value) : Prop where
  size : before.objects.size ≤ after.objects.size
  kept : ∀ ref, before.Has ref → written ≠ some ref → after.get? ref = before.get? ref
  points : ∀ a b, after.Points a b → before.Points a b ∨
    (written = some a ∨ ¬ before.Has a) ∧ (b ∈ value.refs ∨ before.Made after b)

namespace Grows

variable {base now : Heap} {written : Option ObjectRef} {value v : Value} {ref : ObjectRef}

theorem refl (heap : Heap) (written : Option ObjectRef) (value : Value) :
    heap.Grows heap written value :=
  ⟨Nat.le_refl _, fun _ _ _ => rfl, fun _ _ h => .inl h⟩

theorem has (h : base.Grows now written value) (isThere : base.Has ref) : now.Has ref :=
  Nat.lt_of_lt_of_le isThere h.size

theorem alloc (h : base.Grows now written value) {fields : Fields Value}
    (inside : ∀ name u, fields.get? name = some u →
      ∀ r ∈ u.refs, r ∈ value.refs ∨ base.Made now r) :
    base.Grows (now.alloc fields).2 written value := by
  have size : (now.alloc fields).2.objects.size = now.objects.size + 1 := Array.size_push _
  have wider {r : ObjectRef} (isThere : now.Has r) : (now.alloc fields).2.Has r := by
    rw [Has, size]
    exact Nat.lt_succ_of_lt isThere
  have old {r : ObjectRef} (isThere : now.Has r) :
      (now.alloc fields).2.get? r = now.get? r := by
    refine (Array.getElem?_push ..).trans (if_neg ?_)
    exact Nat.ne_of_lt isThere
  refine ⟨by rw [size]; exact Nat.le_succ_of_le h.size, fun r isThere other => ?_, ?_⟩
  · rw [old (h.has isThere), h.kept r isThere other]
  · rintro a b ⟨name, u, found, mem⟩
    have made {r : ObjectRef} (h : base.Made now r) : base.Made (now.alloc fields).2 r :=
      ⟨h.1, wider h.2⟩
    by_cases isThere : now.Has a
    · rw [member?_of_get? (old isThere)] at found
      rcases h.points a b ⟨name, u, found, mem⟩ with before | ⟨owner, given | new⟩
      · exact .inl before
      · exact .inr ⟨owner, .inl given⟩
      · exact .inr ⟨owner, .inr (made new)⟩
    · have last := Points.has ⟨name, u, found, mem⟩
      rw [Has, size] at last
      have index : a.index = now.objects.size := by
        rw [Has] at isThere
        omega
      obtain rfl : a = ⟨now.objects.size⟩ := ObjectRef.eq_of_index index
      have fresh : fields.get? name = some u := by
        rw [member?] at found
        rwa [show (now.alloc fields).2.get? ⟨now.objects.size⟩ = some fields from
          get?_alloc now fields] at found
      refine .inr ⟨.inr fun isThere' => isThere (h.has isThere'), ?_⟩
      exact (inside name u fresh b mem).imp_right made

theorem setMember (h : base.Grows now written value) {key : String}
    (owner : base.Has ref → written = some ref)
    (inside : ∀ r ∈ v.refs, r ∈ value.refs ∨ base.Made now r) :
    base.Grows (now.setMember ref key v) written value := by
  have size : (now.setMember ref key v).objects.size = now.objects.size := Array.size_modify
  have made {r : ObjectRef} (h : base.Made now r) : base.Made (now.setMember ref key v) r :=
    ⟨h.1, by rw [Has, size]; exact h.2⟩
  refine ⟨by rw [size]; exact h.size, fun r isThere other => ?_, ?_⟩
  · rw [get?_setMember, if_neg, h.kept r isThere other]
    intro same
    obtain rfl := ObjectRef.eq_of_index same
    exact other (owner isThere)
  · rintro a b ⟨name, u, found, mem⟩
    have old (found : now.member? a name = some u) : base.Points a b ∨
        (written = some a ∨ ¬ base.Has a) ∧
          (b ∈ value.refs ∨ base.Made (now.setMember ref key v) b) := by
      rcases h.points a b ⟨name, u, found, mem⟩ with before | ⟨owner, given | new⟩
      · exact .inl before
      · exact .inr ⟨owner, .inl given⟩
      · exact .inr ⟨owner, .inr (made new)⟩
    rw [member?, get?_setMember] at found
    split at found
    · rename_i same
      obtain rfl := ObjectRef.eq_of_index same
      rw [Option.bind_map] at found
      by_cases isKey : name = key
      · subst isKey
        obtain ⟨fields, -, get⟩ := Option.bind_eq_some_iff.1 found
        rw [Function.comp_apply, Fields.get?_put_self] at get
        cases get
        refine .inr ⟨?_, (inside b mem).imp_right made⟩
        by_cases isThere : base.Has ref
        · exact .inl (owner isThere)
        · exact .inr isThere
      · apply old
        obtain ⟨fields, has, get⟩ := Option.bind_eq_some_iff.1 found
        rw [Function.comp_apply, Fields.get?_put_ne isKey] at get
        rw [member?, has]
        exact get
    · exact old found

/-- A new object is put under a key. -/
theorem link (h : base.Grows now written value) {key : String}
    (owner : base.Has ref → written = some ref) : base.Grows (now.link ref key) written value := by
  have wider : base.Grows (now.alloc .empty).2 written value := h.alloc nofun
  refine wider.setMember owner fun r mem => .inr ?_
  obtain rfl : r = (now.alloc .empty).1 := by simpa [Value.refs] using mem
  exact ⟨Nat.not_lt.2 h.size, by simp [Has, Heap.alloc]⟩

end Grows

end Heap

/-! ## Storing a value -/

namespace Store

/-- The object that writing under keys changes: the last one on the way that is there. -/
def owner (heap : Heap) : ObjectRef → List String → ObjectRef
  | ref, key :: second :: keys =>
    match (heap.member? ref key).getD .null with
    | .object next => owner heap next (second :: keys)
    | _ => ref
  | ref, _ => ref

/-- The object that storing a value at a path changes, if the context is there. -/
def owner? (store : Store) (context : Int) (path : String) : Option ObjectRef :=
  (store.context? context).map fun ref => owner store.heap ref (keys path)

theorem owner_cons (heap : Heap) (ref : ObjectRef) (key second : String) (rest : List String) :
    owner heap ref (key :: second :: rest) =
      match (heap.member? ref key).getD .null with
      | .object next => owner heap next (second :: rest)
      | _ => ref := by
  rw [owner]

theorem leads_owner (heap : Heap) (ref : ObjectRef) (keys : List String) :
    heap.Leads ref (owner heap ref keys) := by
  induction keys generalizing ref with
  | nil => exact .refl
  | cons key rest ih =>
    cases rest with
    | nil => exact .refl
    | cons second rest =>
      rw [owner_cons]
      split
      · rename_i next found
        refine .head ⟨key, .object next, ?_, by simp [Value.refs]⟩ (ih next)
        cases inside : heap.member? ref key with
        | none => rw [inside] at found; cases found
        | some v => rw [inside] at found; exact congrArg some found
      · exact .refl

variable {store after : Store} {ref : ObjectRef} {path : String} {done keys : List String}
variable {value : Value} {base : Heap} {written : Option ObjectRef}

theorem Blank.owner (h : Blank store ref) (keys : List String) : owner store.heap ref keys = ref := by
  induction keys with
  | nil => rfl
  | cons key rest ih =>
    cases rest with
    | nil => rfl
    | cons second rest =>
      rw [owner_cons]
      rcases h key with missing | itself
      · rw [missing]
      · rw [itself]
        exact ih

/-- A part of a path that is not there is made and put under its key. -/
theorem openMember_made (path : String) (done : List String) {key : String}
    (missing : (store.heap.member? ref key).getD .null = .null) :
    openMember path done ref key store =
        .ok (store.heap.alloc .empty).1 { store with heap := store.heap.link ref key } ∧
      Blank { store with heap := store.heap.link ref key } (store.heap.alloc .empty).1 := by
  have opened : openMember path done ref key store =
      .ok (store.heap.alloc .empty).1 { store with heap := store.heap.link ref key } := by
    unfold openMember
    rw [get_bind, missing]
    rfl
  obtain ⟨next, found, -⟩ | ⟨next, after, -, opened', blank⟩ | ⟨e, notNull, -⟩ :=
    openMember_cases path done ref key store
  · rw [missing] at found
    cases found
  · rw [opened] at opened'
    cases opened'
    exact ⟨opened, blank⟩
  · exact absurd missing notNull

/-- Writing changes the last object on the way that is there. From then on it writes to objects that
it has made. -/
theorem write_grows (h : write path value done ref keys store = .ok () after)
    (grown : base.Grows store.heap written value)
    (last : base.Has (owner store.heap ref keys) → written = some (owner store.heap ref keys)) :
    base.Grows after.heap written value ∧ after.contexts = store.contexts := by
  induction keys generalizing store ref done with
  | nil =>
    cases h
    exact ⟨grown, rfl⟩
  | cons key rest ih =>
    cases rest with
    | nil =>
      cases h
      exact ⟨grown.setMember last fun r mem => .inl mem, rfl⟩
    | cons second rest =>
      rw [owner_cons] at last
      rw [write] at h
      · obtain ⟨next, found, opened⟩ | ⟨-, -, missing, -⟩ | ⟨e, -, -, failed⟩ :=
          openMember_cases path done ref key store
        · rw [bind_of_ok opened] at h
          rw [found] at last
          exact ih h grown last
        · obtain ⟨opened, blank⟩ := openMember_made path done missing
          rw [bind_of_ok opened] at h
          rw [missing] at last
          have new : ¬ base.Has (store.heap.alloc .empty).1 := Nat.not_lt.2 grown.size
          have further := ih h (grown.link last) fun isThere => by
            rw [blank.owner] at isThere
            exact absurd isThere new
          exact further
        · rw [bind_of_error failed] at h
          cases h
      · simp

theorem context?_setContext_self (store : Store) (context : Int) (ref : ObjectRef) :
    (store.setContext context ref).context? context = some ref :=
  List.lookup_cons_self

theorem context?_setContext_ne {context other : Int} (ne : other ≠ context) (store : Store)
    (ref : ObjectRef) : (store.setContext context ref).context? other = store.context? other := by
  have differs : (other == context) = false := beq_eq_false_iff_ne.2 ne
  have kept (entries : List (Int × ObjectRef)) :
      (entries.filter (·.1 ≠ context)).lookup other = entries.lookup other := by
    induction entries with
    | nil => rfl
    | cons entry rest ih =>
      obtain ⟨key, value⟩ := entry
      by_cases same : key = context
      · subst same
        rw [List.filter_cons_of_neg (by simp), List.lookup_cons, differs]
        exact ih
      · rw [List.filter_cons_of_pos (by simpa using same), List.lookup_cons, List.lookup_cons, ih]
  unfold setContext context?
  rw [List.lookup_cons, differs]
  exact kept store.contexts

/-- A context that is not there is made. -/
theorem openContext_made {context : Int} (missing : store.context? context = none) :
    openContext context store = .ok (store.heap.alloc .empty).1
        (({ store with heap := (store.heap.alloc .empty).2 }).setContext context
          (store.heap.alloc .empty).1) ∧
      Blank (({ store with heap := (store.heap.alloc .empty).2 }).setContext context
          (store.heap.alloc .empty).1) (store.heap.alloc .empty).1 := by
  constructor
  · unfold openContext
    rw [get_bind, missing]
    rfl
  · intro key
    have empty : (store.heap.alloc .empty).2.member? (store.heap.alloc .empty).1 key = none := by
      rw [Heap.member?, Heap.get?_alloc]
      rfl
    exact .inl (congrArg (Option.getD · Value.null) empty)

/-- What became of the contexts of a store when one of them was written: the others are the same
objects, and so is this one unless it was made. -/
structure Keeps (store after : Store) (context : Int) : Prop where
  others : ∀ other, other ≠ context → after.context? other = store.context? other
  own : ∀ ref, after.context? context = some ref →
    store.context? context = some ref ∨ store.heap.Made after.heap ref

theorem assign_grows {canceled : Bool} {context : Int}
    (h : assign canceled context path value store = .ok () after) :
    store.heap.Grows after.heap (store.owner? context path) value ∧ Keeps store after context := by
  have sameContexts {middle : Store} (same : after.contexts = middle.contexts) (other : Int) :
      after.context? other = middle.context? other := by
    rw [context?, context?, same]
  unfold assign at h
  split at h
  · cases h
  · split at h
    · cases h
    · cases found : store.context? context with
      | some ref =>
        rw [bind_of_ok (openContext_of_some found)] at h
        have last : store.owner? context path = some (owner store.heap ref (Store.keys path)) := by
          rw [owner?, found, Option.map_some]
        obtain ⟨grown, same⟩ := write_grows h (.refl _ (store.owner? context path) value)
          fun _ => last
        refine ⟨grown, fun other _ => sameContexts same other, fun ref' isContext => .inl ?_⟩
        rw [← sameContexts same, isContext]
      | none =>
        obtain ⟨opened, blank⟩ := openContext_made found
        rw [bind_of_ok opened] at h
        have new : ¬ store.heap.Has (store.heap.alloc .empty).1 := Nat.lt_irrefl _
        have start : store.heap.Grows (store.heap.alloc .empty).2 (store.owner? context path) value :=
          Heap.Grows.alloc (.refl _ _ _) nofun
        obtain ⟨grown, same⟩ := write_grows h start fun isThere => by
          rw [blank.owner] at isThere
          exact absurd isThere new
        refine ⟨grown, fun other ne => ?_, fun ref' isContext => .inr ?_⟩
        · rw [sameContexts same, context?_setContext_ne ne]
          rfl
        · rw [sameContexts same, context?_setContext_self] at isContext
          cases isContext
          have further := (write_grows h (.refl _ (some _) value) fun _ => rfl).1
          refine ⟨new, further.has ?_⟩
          simp [setContext, Heap.Has, Heap.alloc]

end Store

/-! ## Replacing a context -/

namespace Heap

variable {base : Heap} {written : Option ObjectRef} {value : Value}

theorem Made.mono {middle after : Heap} {ref : ObjectRef} (h : base.Made middle ref)
    (wider : middle.objects.size ≤ after.objects.size) : base.Made after ref :=
  ⟨h.1, Nat.lt_of_lt_of_le h.2 wider⟩

mutual

/-- Plain data is made of new objects only. -/
theorem ofData_grows : (heap : Heap) → (d : Data) → base.Grows heap written value →
    base.Grows (heap.ofData d).2 written value ∧
      heap.objects.size ≤ (heap.ofData d).2.objects.size ∧
      ∀ r ∈ (heap.ofData d).1.refs, base.Made (heap.ofData d).2 r
  | heap, .list items, grown => by
    have inner := ofItems_grows heap items grown
    rw [ofData]
    exact inner
  | heap, .record entries, grown => by
    obtain ⟨inner, wider, made⟩ := ofEntries_grows heap entries grown
    have more := inner.alloc fun name u found r mem => .inr (made name u found r mem)
    rw [ofData]
    have size : heap.objects.size < ((heap.ofEntries entries).2.alloc
        (heap.ofEntries entries).1).2.objects.size := by
      simp only [alloc, Array.size_push]
      omega
    refine ⟨more, Nat.le_of_lt size, fun r mem => ?_⟩
    obtain rfl : r = ⟨(heap.ofEntries entries).2.objects.size⟩ := by
      simpa [Value.refs, alloc] using mem
    exact ⟨Nat.not_lt.2 inner.size, by simp [Has, alloc]⟩
  | heap, .null, grown | heap, .bool _, grown | heap, .string _, grown | heap, .bytes _, grown
  | heap, .number _, grown | heap, .int _, grown | heap, .uint _, grown | heap, .table _, grown => by
    rw [ofData]
    exact ⟨grown, Nat.le_refl _, by simp [Value.refs]⟩

theorem ofItems_grows : (heap : Heap) → (items : List Data) → base.Grows heap written value →
    base.Grows (heap.ofItems items).2 written value ∧
      heap.objects.size ≤ (heap.ofItems items).2.objects.size ∧
      ∀ r ∈ Value.refsAll (heap.ofItems items).1, base.Made (heap.ofItems items).2 r
  | heap, [], grown => by
    rw [ofItems]
    exact ⟨grown, Nat.le_refl _, by simp [Value.refsAll]⟩
  | heap, item :: items, grown => by
    obtain ⟨first, wider, made⟩ := ofData_grows heap item grown
    obtain ⟨rest, wider', made'⟩ := ofItems_grows (heap.ofData item).2 items first
    rw [ofItems]
    refine ⟨rest, Nat.le_trans wider wider', fun r mem => ?_⟩
    rcases List.mem_append.1 mem with here | later
    · exact (made r here).mono wider'
    · exact made' r later

theorem ofEntries_grows : (heap : Heap) → (entries : List (String × Data)) →
    base.Grows heap written value →
    base.Grows (heap.ofEntries entries).2 written value ∧
      heap.objects.size ≤ (heap.ofEntries entries).2.objects.size ∧
      ∀ name u, (heap.ofEntries entries).1.get? name = some u →
        ∀ r ∈ u.refs, base.Made (heap.ofEntries entries).2 r
  | heap, [], grown => by
    rw [ofEntries]
    exact ⟨grown, Nat.le_refl _, nofun⟩
  | heap, (key, item) :: entries, grown => by
    obtain ⟨first, wider, made⟩ := ofData_grows heap item grown
    obtain ⟨rest, wider', made'⟩ := ofEntries_grows (heap.ofData item).2 entries first
    rw [ofEntries]
    refine ⟨rest, Nat.le_trans wider wider', fun name u found r mem => ?_⟩
    by_cases same : name = key
    · subst same
      rw [Fields.get?_put_self] at found
      cases found
      exact (made r mem).mono wider'
    · rw [Fields.get?_put_ne same] at found
      exact made' name u found r mem

end

end Heap

theorem Store.replace_grows (store : Store) (context : Int) (fields : List (String × Data)) :
    store.heap.Grows (store.replace context fields).heap none .null ∧
      Keeps store (store.replace context fields) context := by
  obtain ⟨inner, wider, made⟩ :=
    Heap.ofEntries_grows store.heap fields (.refl store.heap none .null)
  have more := inner.alloc fun name u found r mem => .inr (made name u found r mem)
  refine ⟨more, fun other ne => context?_setContext_ne ne _ _, fun ref isContext => .inr ?_⟩
  rw [replace, context?_setContext_self] at isContext
  cases isContext
  exact ⟨Nat.not_lt.2 inner.size, by simp [replace, setContext, Heap.Has, Heap.alloc]⟩

end PageBinding
