import Mathlib.Data.List.Basic
import PageBinding.Proofs.Store.Unshared
import PageBinding.Proofs.Text.Split

/-!
What is read after a value was stored. In a store in which nothing is shared, storing a value at a path
changes one place and what is above it: `Update` follows the path and says for each object on it that
one member leads on, and that every other member is as it was. The laws of reading are inductions
on it, one for each way in which another path can lie to the one that was written.
-/
namespace PageBinding.Store

/-! ## Reading -/

/-- What the paths of a context are read from. -/
def root (store : Store) (context : Int) : Value :=
  ((store.context? context).map Value.object).getD .null

/-- What a value has under a name, if it is an object. -/
def entry? (heap : Heap) : Value → String → Option Value
  | .object ref, name => heap.member? ref name
  | _, _ => none

/-- Every object that a value leads to is as it was. -/
def Same (before after : Heap) (v : Value) : Prop :=
  ∀ ref, before.Reaches v ref → after.get? ref = before.get? ref

theorem keys_ne_nil (path : String) : keys path ≠ [] := by
  simp [keys, Text.splitOn_eq, List.splitOn_eq_splitOnP]

theorem keys_append (path rest : String) : keys (path ++ "." ++ rest) = keys path ++ keys rest := by
  have shape : (path ++ "." ++ rest).toList = path.toList ++ '.' :: rest.toList := by simp
  rw [keys, shape, Text.splitOn_append_cons, List.map_append]
  rfl

@[simp]
theorem follow_null (heap : Heap) (keys : List String) : follow heap .null keys = .null := by
  cases keys <;> rfl

theorem follow_object (heap : Heap) (ref : ObjectRef) (key : String) (keys : List String) :
    follow heap (.object ref) (key :: keys) =
      follow heap ((heap.member? ref key).getD .null) keys := rfl

theorem read_eq_follow (store : Store) (context : Int) {path : String} (isPath : path ≠ "") :
    store.read context path = follow store.heap (store.root context) (keys path) := by
  rw [read, if_neg isPath, root]
  cases store.context? context with
  | some ref => rfl
  | none => exact (follow_null _ _).symm

theorem reaches_of_follow {heap : Heap} {v : Value} {keys : List String} {ref : ObjectRef}
    (h : heap.Reaches (follow heap v keys) ref) : heap.Reaches v ref := by
  obtain ⟨first, mem, leads⟩ := h
  obtain ⟨top, inside, path⟩ := follow_reaches mem
  exact ⟨top, inside, path.trans leads⟩

/-! ## Changes along a path -/

/-- Following keys from `old` before and from `new` after, each object on the way has the next key
changed and nothing else, or was made for it, and at the end stands `value`. -/
inductive Update (before after : Heap) (value : Value) : Value → Value → List String → Prop
  | done (old : Value) : Update before after value old value []
  | through {ref : ObjectRef} {key : String} {keys : List String} {new : Value} :
      after.member? ref key = some new →
      (∀ other, other ≠ key → after.member? ref other = before.member? ref other) →
      (∀ other u, other ≠ key → before.member? ref other = some u → Same before after u) →
      Update before after value ((before.member? ref key).getD .null) new keys →
      Update before after value (.object ref) (.object ref) (key :: keys)
  | made {ref : ObjectRef} {key : String} {keys : List String} {new : Value} :
      after.get? ref = some (Fields.empty.put key new) →
      Update before after value .null new keys →
      Update before after value .null (.object ref) (key :: keys)

theorem member?_of_put {heap : Heap} {ref : ObjectRef} {key : String} {v : Value}
    (h : heap.get? ref = some (Fields.empty.put key v)) :
    heap.member? ref key = some v ∧ ∀ other, other ≠ key → heap.member? ref other = none := by
  refine ⟨by simp [Heap.member?, h], fun other ne => ?_⟩
  simp [Heap.member?, h, Fields.get?_put_ne ne]

namespace Update

variable {before after : Heap} {value old new : Value} {keys q : List String}

theorem follow_append (h : Update before after value old new keys) (rest : List String) :
    follow after new (keys ++ rest) = follow after value rest := by
  induction h with
  | done => rfl
  | through here _ _ _ ih => rw [List.cons_append, follow_object, here, Option.getD_some, ih]
  | made here _ ih =>
      rw [List.cons_append, follow_object, (member?_of_put here).1, Option.getD_some, ih]

theorem follow_aside (h : Update before after value old new keys) (notAbove : ¬ q <+: keys)
    (notBelow : ¬ keys <+: q) :
    follow after new q = follow before old q ∧ Same before after (follow before old q) := by
  induction h generalizing q with
  | done => exact absurd List.nil_prefix notBelow
  | @through ref key keys new here others kept _ ih =>
      cases q with
      | nil => exact absurd List.nil_prefix notAbove
      | cons k q =>
          rw [follow_object, follow_object]
          by_cases same : k = key
          · subst same
            rw [List.prefix_cons_inj] at notAbove notBelow
            rw [here, Option.getD_some]
            exact ih notAbove notBelow
          · rw [others k same]
            cases found : before.member? ref k with
            | none =>
                rw [Option.getD_none, follow_null, follow_null]
                exact ⟨rfl, fun r reaches => by simp [Heap.Reaches, Value.refs] at reaches⟩
            | some u =>
                have unchanged := kept k u same found
                exact ⟨follow_congr q unchanged, fun r reaches => unchanged r (reaches_of_follow reaches)⟩
  | @made ref key keys new here _ ih =>
      cases q with
      | nil => exact absurd List.nil_prefix notAbove
      | cons k q =>
          rw [follow_object, follow_null]
          by_cases same : k = key
          · subst same
            rw [List.prefix_cons_inj] at notAbove notBelow
            rw [(member?_of_put here).1, Option.getD_some]
            simpa using ih notAbove notBelow
          · rw [(member?_of_put here).2 k same, Option.getD_none, follow_null]
            exact ⟨rfl, fun r reaches => by simp [Heap.Reaches, Value.refs] at reaches⟩

theorem follow_above (h : Update before after value old new keys) (above : q <+: keys)
    (strict : q ≠ keys) :
    ∃ ref, follow after new q = .object ref ∧
      (follow before old q = .object ref ∨ follow before old q = .null) ∧
      ∀ key, ¬ q ++ [key] <+: keys →
        after.member? ref key = entry? before (follow before old q) key := by
  induction h generalizing q with
  | done => exact absurd (List.prefix_nil.1 above) strict
  | @through ref key keys new here others kept _ ih =>
      cases q with
      | nil =>
          refine ⟨ref, rfl, .inl rfl, fun other notNext => others other ?_⟩
          rintro rfl
          exact notNext ⟨keys, rfl⟩
      | cons k q =>
          obtain ⟨rfl, inner⟩ := List.cons_prefix_cons.1 above
          have further := ih inner fun same => strict (congrArg _ same)
          simpa [follow_object, here] using further
  | @made ref key keys new here _ ih =>
      cases q with
      | nil =>
          refine ⟨ref, rfl, .inr rfl, fun other notNext => (member?_of_put here).2 other ?_⟩
          rintro rfl
          exact notNext ⟨keys, rfl⟩
      | cons k q =>
          obtain ⟨rfl, inner⟩ := List.cons_prefix_cons.1 above
          have further := ih inner fun same => strict (congrArg _ same)
          simpa [follow_object, (member?_of_put here).1] using further

end Update

/-! ## Writing -/

variable {store after : Store} {ref : ObjectRef} {path : String} {done keys : List String}
variable {value : Value} {context : Int} {route : List (String × Nat)}

theorem member?_setMember_self {heap : Heap} (isThere : heap.Has ref) (key : String) (v : Value) :
    (heap.setMember ref key v).member? ref key = some v := by
  obtain ⟨fields, found⟩ : ∃ fields, heap.get? ref = some fields :=
    ⟨_, Array.getElem?_eq_getElem isThere⟩
  simp [Heap.member?, Heap.get?_setMember, found]

theorem member?_setMember_ne (heap : Heap) {key other : String} (ne : other ≠ key) (v : Value) :
    (heap.setMember ref key v).member? ref other = heap.member? ref other := by
  rw [Heap.member?, Heap.get?_setMember, if_pos rfl, Heap.member?]
  cases heap.get? ref with
  | none => rfl
  | some fields => exact Fields.get?_put_ne ne fields v

theorem get?_setMember_ne (heap : Heap) {other : ObjectRef} (ne : other ≠ ref) (key : String)
    (v : Value) : (heap.setMember ref key v).get? other = heap.get? other := by
  rw [Heap.get?_setMember, if_neg]
  intro same
  exact ne (ObjectRef.eq_of_index same).symm

theorem get?_alloc_old {heap : Heap} (isThere : heap.Has ref) (fields : Fields Value) :
    (heap.alloc fields).2.get? ref = heap.get? ref := by
  refine (Array.getElem?_push ..).trans (if_neg ?_)
  exact Nat.ne_of_lt isThere

theorem has_alloc {heap : Heap} (isThere : heap.Has ref) (fields : Fields Value) :
    (heap.alloc fields).2.Has ref := by
  simp only [Heap.Has, Heap.alloc, Array.size_push] at *
  omega

theorem ne_alloc {heap : Heap} (isThere : heap.Has ref) (fields : Fields Value) :
    ref ≠ (heap.alloc fields).1 := by
  rintro rfl
  exact Nat.lt_irrefl _ isThere

/-- Writing changes the last object on the way that is there and no other. -/
theorem write_kept (written : write path value done ref keys store = .ok () after)
    {r : ObjectRef} (isThere : store.heap.Has r) (other : r ≠ owner store.heap ref keys) :
    after.heap.get? r = store.heap.get? r := by
  have grown := (write_grows written (.refl _ (some (owner store.heap ref keys)) value)
    fun _ => rfl).1
  exact grown.kept r isThere fun same => other (Option.some.inj same).symm

theorem blank_of_empty (empty : store.heap.get? ref = some .empty) : Blank store ref := by
  intro key
  exact .inl (by simp [Heap.member?, empty])

theorem get?_link_new {heap : Heap} (isThere : heap.Has ref) (key : String) :
    (heap.link ref key).get? (heap.alloc .empty).1 = some .empty := by
  rw [Heap.link, get?_setMember_ne _ (ne_alloc isThere _).symm, Heap.get?_alloc]

/-- Writing below a new member leaves the objects that were there before it. -/
theorem write_kept_new {key : String} {r : ObjectRef} (isThere : store.heap.Has ref)
    (old : store.heap.Has r)
    (written : write path value done (store.heap.alloc .empty).1 keys
      { store with heap := store.heap.link ref key } = .ok () after) :
    after.heap.get? r = (store.heap.link ref key).get? r := by
  refine write_kept written ?_ ?_
  · simpa [Heap.link, Heap.Has, Heap.setMember] using has_alloc old .empty
  · rw [(blank_of_empty (get?_link_new isThere key)).owner]
    exact ne_alloc old _

/-- In a new object, writing makes an object for each key but the last. -/
theorem write_made (base : Heap) (written : write path value done ref keys store = .ok () after)
    (isPath : keys ≠ []) (empty : store.heap.get? ref = some .empty) :
    Update base after.heap value .null (.object ref) keys := by
  have isThere : store.heap.Has ref := Heap.has_of_get? empty
  induction keys generalizing store ref done with
  | nil => exact absurd rfl isPath
  | cons key rest ih =>
      cases rest with
      | nil =>
          cases written
          exact .made (by simp [Heap.get?_setMember, empty]) (.done _)
      | cons second rest =>
          have missing : (store.heap.member? ref key).getD .null = .null := by
            simp [Heap.member?, empty]
          obtain ⟨opened, -⟩ := openMember_made path done missing
          rw [write, bind_of_ok opened] at written
          · have new := get?_link_new isThere key
            have linked : (store.heap.link ref key).get? ref =
                some (Fields.empty.put key (.object (store.heap.alloc .empty).1)) := by
              rw [Heap.link, Heap.get?_setMember, if_pos rfl, get?_alloc_old isThere, empty]
              rfl
            have kept := write_kept_new isThere isThere written
            refine .made (kept.trans linked) (ih written (List.cons_ne_nil _ _) new ?_)
            exact Heap.has_of_get? new
          · simp

/-! ## Writing where nothing is shared -/

section
variable (unshared : store.Unshared) (h : store.Route context route ref) {key : String}
include unshared h

/-- A change below one member leaves what the others lead to. -/
theorem Unshared.siblings {heap : Heap}
    (kept : ∀ r, store.heap.Has r → r ≠ ref →
      (∀ v, store.heap.member? ref key = some v → ¬ store.heap.Reaches v r) →
      heap.get? r = store.heap.get? r) :
    ∀ other u, other ≠ key → store.heap.member? ref other = some u → Same store.heap heap u := by
  intro other u ne found r reaches
  obtain ⟨i, more, further⟩ := h.member found reaches
  refine kept r (unshared.isThere _ _ _ further) ?_ fun v found' => ?_
  · rintro rfl
    exact unshared.not_back h found reaches
  · exact unshared.disjoint h ne.symm found found' reaches

/-- The member holds an object, so this object is kept and the update goes on below it. -/
theorem update_below {next : ObjectRef} (found : store.heap.member? ref key = some (.object next))
    (written : write path value done next keys store = .ok () after)
    (inner : Update store.heap after.heap value (.object next) (.object next) keys) :
    Update store.heap after.heap value (.object ref) (.object ref) (key :: keys) := by
  have below : store.heap.Reaches (.object next) (owner store.heap next keys) :=
    ⟨next, by simp [Value.refs], leads_owner _ _ _⟩
  have keptHere : after.heap.get? ref = store.heap.get? ref := by
    refine write_kept written (unshared.isThere _ _ _ h) ?_
    intro same
    exact unshared.not_back h found (same ▸ below)
  have opensHere : after.heap.member? ref key = some (.object next) := by
    rw [Heap.member?_of_get? keptHere, found]
  refine .through opensHere (fun other _ => Heap.member?_of_get? keptHere other)
    (unshared.siblings h fun r isThere _ apart => ?_) ?_
  · refine write_kept written isThere ?_
    rintro rfl
    exact apart _ found below
  · simpa [found] using inner

/-- The member holds nothing, so an object is made, and everything below it is new. -/
theorem update_new (missing : (store.heap.member? ref key).getD .null = .null) (isPath : keys ≠ [])
    (written : write path value done (store.heap.alloc .empty).1 keys
      { store with heap := store.heap.link ref key } = .ok () after) :
    Update store.heap after.heap value (.object ref) (.object ref) (key :: keys) := by
  have isThere := unshared.isThere _ _ _ h
  have kept {r : ObjectRef} (old : store.heap.Has r) :
      after.heap.get? r = (store.heap.link ref key).get? r :=
    write_kept_new isThere old written
  have opensHere : after.heap.member? ref key = some (.object (store.heap.alloc .empty).1) := by
    rw [Heap.member?_of_get? (kept isThere)]
    exact member?_setMember_self (has_alloc isThere _) key _
  refine .through opensHere (fun other ne => ?_) (unshared.siblings h fun r old ne _ => ?_) ?_
  · rw [Heap.member?_of_get? (kept isThere), Heap.link, member?_setMember_ne _ ne]
    exact Heap.member?_of_get? (get?_alloc_old isThere _) other
  · rw [kept old, Heap.link, get?_setMember_ne _ ne, get?_alloc_old old]
  · rw [missing]
    exact write_made store.heap written isPath (get?_link_new isThere key)

end

theorem write_update (unshared : store.Unshared) (h : store.Route context route ref)
    (written : write path value done ref keys store = .ok () after) (isPath : keys ≠ []) :
    Update store.heap after.heap value (.object ref) (.object ref) keys := by
  induction keys generalizing ref done route with
  | nil => exact absurd rfl isPath
  | cons key rest ih =>
      cases rest with
      | nil =>
          cases written
          refine .through (member?_setMember_self (unshared.isThere _ _ _ h) key value)
            (fun other ne => member?_setMember_ne _ ne value)
            (unshared.siblings h fun r _ ne _ => get?_setMember_ne _ ne key value) (.done _)
      | cons second rest =>
          rw [write] at written
          · obtain ⟨next, found, opened⟩ | ⟨-, -, missing, -⟩ | ⟨e, -, -, failed⟩ :=
              openMember_cases path done ref key store
            · have found : store.heap.member? ref key = some (.object next) := by
                cases inside : store.heap.member? ref key with
                | none => simp [inside] at found
                | some v => simpa [inside] using found
              rw [bind_of_ok opened] at written
              have further : store.Route context (route ++ [(key, 0)]) next := h.step found rfl
              exact update_below unshared h found written (ih further written (List.cons_ne_nil _ _))
            · obtain ⟨opened, -⟩ := openMember_made path done missing
              rw [bind_of_ok opened] at written
              exact update_new unshared h missing (List.cons_ne_nil _ _) written
            · rw [bind_of_error failed] at written
              cases written
          · simp

/-! ## Storing -/

theorem assign_update {canceled : Bool} (unshared : store.Unshared)
    (stored : assign canceled context path value store = .ok () after) :
    path ≠ "" ∧
      Update store.heap after.heap value (store.root context) (after.root context) (Store.keys path) := by
  have sameRoot {middle : Store} {ref : ObjectRef} (found : middle.context? context = some ref)
      (written : write path value [] ref (Store.keys path) middle = .ok () after) :
      after.root context = .object ref := by
    have contexts := (write_grows written (.refl _ (some (owner middle.heap ref (Store.keys path))) value)
      fun _ => rfl).2
    rw [root, context?, contexts, ← context?, found]
    rfl
  unfold assign at stored
  split at stored
  · cases stored
  · split at stored
    · cases stored
    · rename_i isPath
      refine ⟨isPath, ?_⟩
      cases found : store.context? context with
      | some ref =>
          rw [bind_of_ok (openContext_of_some found)] at stored
          have inner := write_update unshared (.root found) stored (keys_ne_nil path)
          rw [sameRoot found stored, root, found]
          exact inner
      | none =>
          obtain ⟨opened, -⟩ := openContext_made found
          rw [bind_of_ok opened] at stored
          have inner := write_made store.heap stored (keys_ne_nil path) (Heap.get?_alloc _ _)
          rw [sameRoot (context?_setContext_self _ _ _) stored, root, found]
          exact inner

/-- A value that is apart from the store is stored as it is. -/
theorem assign_same {canceled : Bool} (apart : store.Apart value)
    (stored : assign canceled context path value store = .ok () after) :
    Same store.heap after.heap value := by
  intro ref reaches
  refine (assign_grows stored).1.kept ref (apart.isThere ref reaches) fun isOwner => ?_
  obtain ⟨top, found, rfl⟩ := Option.map_eq_some_iff.1 isOwner
  obtain ⟨more, inside⟩ := (Route.root found).leads (leads_owner store.heap top (Store.keys path))
  exact apart.outside _ reaches _ _ inside

/-- The laws of storing. After a value was stored at a path it is read there, with all that is in it.
A path that leads neither to the place nor through it reads as before, with all that is in what it
reads. A path above the place reads an object, which has every member that it had but the one on the
way. -/
theorem assign_laws {canceled : Bool} (unshared : store.Unshared) (apart : store.Apart value)
    (stored : assign canceled context path value store = .ok () after) :
    after.read context path = value ∧
    (∀ r, after.read context (path ++ "." ++ r) = follow store.heap value (Store.keys r)) ∧
    Same store.heap after.heap value ∧
    (∀ q, ¬ Store.keys q <+: Store.keys path → ¬ Store.keys path <+: Store.keys q →
      after.read context q = store.read context q ∧
        Same store.heap after.heap (store.read context q)) ∧
    ∀ q, q ≠ "" → Store.keys q <+: Store.keys path → Store.keys q ≠ Store.keys path →
      ∃ ref, after.read context q = .object ref ∧
        (store.read context q = .object ref ∨ store.read context q = .null) ∧
        ∀ key, ¬ Store.keys q ++ [key] <+: Store.keys path →
          after.heap.member? ref key = entry? store.heap (store.read context q) key := by
  obtain ⟨isPath, update⟩ := assign_update unshared stored
  have same := assign_same apart stored
  refine ⟨?_, fun r => ?_, same, fun q notAbove notBelow => ?_, fun q isPath above strict => ?_⟩
  · rw [read_eq_follow _ _ isPath]
    simpa [follow] using update.follow_append []
  · have isPath : path ++ "." ++ r ≠ "" := by simp
    rw [read_eq_follow _ _ isPath, keys_append, update.follow_append, follow_congr _ same]
  · by_cases isPath : q = ""
    · subst isPath
      exact ⟨rfl, fun ref reaches => by simp [read, Heap.Reaches, Value.refs] at reaches⟩
    · rw [read_eq_follow _ _ isPath, read_eq_follow _ _ isPath]
      exact update.follow_aside notAbove notBelow
  · rw [read_eq_follow _ _ isPath, read_eq_follow _ _ isPath]
    exact update.follow_above above strict

/-- A context with an object in it, and one more object that is not in the store. -/
def nestedStore : Store :=
  ⟨⟨#[⟨[("a", .object ⟨1⟩)]⟩, ⟨[("k", .bool true)]⟩, ⟨[("n", .bool false)]⟩]⟩, [(1, ⟨0⟩)]⟩

theorem route_nestedStore (h : nestedStore.Route context route ref) :
    context = 1 ∧ (route = [] ∧ ref = ⟨0⟩ ∨ route = [("a", 0)] ∧ ref = ⟨1⟩) := by
  induction h with
  | root found =>
      by_cases isOne : context = 1
      · subst isOne
        exact ⟨rfl, .inl ⟨rfl, (Option.some.inj found).symm⟩⟩
      · have differs : (context == 1) = false := beq_eq_false_iff_ne.2 isOne
        have missing : nestedStore.context? context = none := by
          simp [nestedStore, context?, List.lookup_cons, differs]
        rw [missing] at found
        cases found
  | @step _ _ _ name v i _ found here ih =>
      obtain ⟨isOne, ⟨rfl, rfl⟩ | ⟨rfl, rfl⟩⟩ := ih
      · obtain ⟨rfl, rfl⟩ : "a" = name ∧ Value.object ⟨1⟩ = v := by
          simpa [nestedStore, Heap.member?, Heap.get?, Fields.get?, Fields.find?] using found
        obtain ⟨rfl, rfl⟩ : i = 0 ∧ ObjectRef.mk 1 = _ := by
          simpa [Value.refs, List.getElem?_singleton] using here
        exact ⟨isOne, .inr ⟨rfl, rfl⟩⟩
      · obtain ⟨-, rfl⟩ : "k" = name ∧ Value.bool true = v := by
          simpa [nestedStore, Heap.member?, Heap.get?, Fields.get?, Fields.find?] using found
        simp [Value.refs] at here

theorem unshared_nestedStore : nestedStore.Unshared := by
  constructor
  · intro context route ref h
    obtain ⟨-, ⟨-, rfl⟩ | ⟨-, rfl⟩⟩ := route_nestedStore h <;> simp [nestedStore, Heap.Has]
  · intro context context' route route' ref h h'
    obtain ⟨rfl, first⟩ := route_nestedStore h
    obtain ⟨rfl, second⟩ := route_nestedStore h'
    grind

theorem apart_nestedStore : nestedStore.Apart (.object ⟨2⟩) := by
  have alone (ref : ObjectRef) (reaches : nestedStore.heap.Reaches (.object ⟨2⟩) ref) : ref = ⟨2⟩ := by
    obtain ⟨first, mem, leads⟩ := reaches
    obtain rfl : first = ⟨2⟩ := by simpa [Value.refs] using mem
    induction leads with
    | refl => rfl
    | tail _ points ih =>
        obtain ⟨name, v, found, inside⟩ := points
        rw [ih] at found
        obtain ⟨-, rfl⟩ : "n" = name ∧ Value.bool false = v := by
          simpa [nestedStore, Heap.member?, Heap.get?, Fields.get?, Fields.find?] using found
        simp [Value.refs] at inside
  constructor
  · intro ref reaches
    rw [alone ref reaches]
    simp [nestedStore, Heap.Has]
  · intro ref reaches context route h
    rw [alone ref reaches] at h
    obtain ⟨-, ⟨-, same⟩ | ⟨-, same⟩⟩ := route_nestedStore h <;> cases same

/-- An object is stored two levels below one that is there: it is read there, the object above keeps
its other member, and one object was made between them. -/
theorem nestedStore_assign_laws :
    ∃ after, assign false 1 "a.b.c" (.object ⟨2⟩) nestedStore = .ok () after ∧
      after.read 1 "a.b.c" = .object ⟨2⟩ ∧ after.read 1 ("a.b.c" ++ "." ++ "n") = .bool false ∧
      after.read 1 "a.k" = .bool true ∧
      ∃ ref, after.read 1 "a.b" = .object ref ∧ after.heap.member? ref "k" = none := by
  have stored : assign false 1 "a.b.c" (.object ⟨2⟩) nestedStore = .ok () _ := rfl
  refine ⟨_, stored, ?_⟩
  obtain ⟨here, below, -, aside, above⟩ := assign_laws unshared_nestedStore apart_nestedStore stored
  refine ⟨here, below "n", (aside "a.k" (by decide) (by decide)).1, ?_⟩
  obtain ⟨ref, made, -, others⟩ := above "a.b" (by decide) (by decide) (by decide)
  exact ⟨ref, made, others "k" (by decide)⟩

end PageBinding.Store
