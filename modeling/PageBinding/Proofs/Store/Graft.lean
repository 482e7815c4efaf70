import PageBinding.Proofs.Store.Update

/-!
What one write makes. It hangs a chain of new objects, one for each key that leads nowhere yet, at one
spot of the store, with the value at the end of the chain. `Lands` says which spot this is.
-/
namespace PageBinding.Store

/-- Where something can be hung: the object of a context, or a member of an object. -/
inductive Spot
  | context (context : Int)
  | member (owner : ObjectRef) (key : String)
  deriving DecidableEq

/-- A value to be hung at a spot, below new objects with one key each. -/
structure Graft where
  spot : Spot
  chain : List String
  value : Value

/-- The top of a chain whose first object has the number `n`: that object, or the value if there is
none. -/
def stem (n : Nat) (chain : List String) (value : Value) : Value :=
  if chain = [] then value else .object ⟨n⟩

/-- What a heap has under the number of each object of a chain. -/
def Hangs (heap : Heap) (n : Nat) (chain : List String) (value : Value) : Prop :=
  ∀ i key rest, chain.drop i = key :: rest → ∀ name,
    heap.member? ⟨n + i⟩ name = if name = key then some (stem (n + i + 1) rest value) else none

/-- The second store is the first with something hung in it, and is otherwise the same. -/
structure Grafted (before after : Store) (g : Graft) : Prop where
  size : after.heap.objects.size = before.heap.objects.size + g.chain.length
  contexts : ∀ context, after.context? context =
    if g.spot = .context context then some ⟨before.heap.objects.size⟩ else before.context? context
  old : ∀ ref name, before.heap.Has ref → after.heap.member? ref name =
    if g.spot = .member ref name then some (stem before.heap.objects.size g.chain g.value)
    else before.heap.member? ref name
  new : Hangs after.heap before.heap.objects.size g.chain g.value
  rooted : ∀ context, g.spot = .context context → g.chain ≠ []

/-- Following keys from an object, one comes to a member of `owner` that is the last or leads nowhere
yet. `chain` are the keys behind it. -/
inductive Lands (heap : Heap) : ObjectRef → List String → ObjectRef → String → List String → Prop
  | last (ref : ObjectRef) (key : String) : Lands heap ref [key] ref key []
  | missing {ref : ObjectRef} {key second : String} {rest : List String} :
      (heap.member? ref key).getD .null = .null →
      Lands heap ref (key :: second :: rest) ref key (second :: rest)
  | next {ref next owner : ObjectRef} {key second last : String} {rest chain : List String} :
      heap.member? ref key = some (.object next) → Lands heap next (second :: rest) owner last chain →
      Lands heap ref (key :: second :: rest) owner last chain

variable {store after : Store} {heap later : Heap} {ref owner next : ObjectRef}
variable {path key second last : String} {done keys rest chain : List String} {value : Value}
variable {context : Int}

/-! ## Following keys -/

theorem member?_of_getD (found : (heap.member? ref key).getD .null = .object next) :
    heap.member? ref key = some (.object next) := by
  cases inside : heap.member? ref key with
  | none => simp [inside] at found
  | some v => simpa [inside] using found

theorem lands_of_empty (empty : heap.get? ref = some .empty) (key : String) (rest : List String) :
    Lands heap ref (key :: rest) ref key rest := by
  cases rest with
  | nil => exact .last ref key
  | cons second rest => exact .missing (by simp [Heap.member?, empty])

namespace Lands

theorem leads (h : Lands heap ref keys owner last chain) : heap.Leads ref owner := by
  induction h with
  | last => exact .refl
  | missing => exact .refl
  | next found _ ih => exact .head ⟨_, _, found, by simp [Value.refs]⟩ ih

/-- The spot is a member of the first object, or is below its first key. -/
theorem owner_cases (h : Lands heap ref (key :: rest) owner last chain) :
    owner = ref ∧ last = key ∨ ∃ v, heap.member? ref key = some v ∧ heap.Reaches v owner := by
  cases h with
  | last => exact .inl ⟨rfl, rfl⟩
  | missing => exact .inl ⟨rfl, rfl⟩
  | @next _ next _ _ _ _ _ _ found inner =>
    exact .inr ⟨_, found, next, by simp [Value.refs], inner.leads⟩

theorem congr_below (h : Lands heap ref keys owner last chain)
    (same : ∀ r, heap.Leads ref r → ∀ name, later.member? r name = heap.member? r name) :
    Lands later ref keys owner last chain := by
  induction h with
  | last => exact .last _ _
  | missing nothing => exact .missing (by rwa [same _ .refl])
  | next found _ ih =>
    refine .next (by rwa [same _ .refl]) (ih fun r leads => same r (.head ?_ leads))
    exact ⟨_, _, found, by simp [Value.refs]⟩

/-- Only the first key and what is below it decide where the keys lead. -/
theorem congr (h : Lands heap ref (key :: rest) owner last chain)
    (here : later.member? ref key = heap.member? ref key)
    (below : ∀ v, heap.member? ref key = some v → ∀ r, heap.Reaches v r →
      ∀ name, later.member? r name = heap.member? r name) :
    Lands later ref (key :: rest) owner last chain := by
  cases h with
  | last => exact .last _ _
  | missing nothing => exact .missing (by rwa [here])
  | @next _ next _ _ _ _ _ _ found inner =>
    refine .next (by rwa [here]) (inner.congr_below fun r leads => ?_)
    exact below _ found r ⟨next, by simp [Value.refs], leads⟩

end Lands

/-! ## Writing -/

theorem write_next (found : store.heap.member? ref key = some (.object next)) (path : String)
    (value : Value) (done : List String) (second : String) (rest : List String) :
    write path value done ref (key :: second :: rest) store =
      write path value (key :: done) next (second :: rest) store := by
  rw [write]
  · have opened : openMember path done ref key store = .ok next store := by
      unfold openMember
      rw [get_bind, found]
      rfl
    rw [bind_of_ok opened]
  · simp

theorem write_missing (missing : (store.heap.member? ref key).getD .null = .null) (path : String)
    (value : Value) (done : List String) (second : String) (rest : List String) :
    write path value done ref (key :: second :: rest) store =
      write path value (key :: done) (store.heap.alloc .empty).1 (second :: rest)
        { store with heap := store.heap.link ref key } := by
  rw [write]
  · rw [bind_of_ok (openMember_made path done missing).1]
  · simp

theorem write_lands (written : write path value done ref (key :: rest) store = .ok () after) :
    ∃ owner last chain, Lands store.heap ref (key :: rest) owner last chain := by
  induction rest generalizing ref key done with
  | nil => exact ⟨_, _, _, .last ref key⟩
  | cons second rest ih =>
    obtain ⟨next, found, -⟩ | ⟨-, -, missing, -⟩ | ⟨e, notNull, notObject, failed⟩ :=
      openMember_cases path done ref key store
    · have found := member?_of_getD found
      rw [write_next found] at written
      obtain ⟨owner, last, chain, inner⟩ := ih written
      exact ⟨owner, last, chain, .next found inner⟩
    · exact ⟨ref, key, second :: rest, .missing missing⟩
    · rw [write, bind_of_error failed] at written
      · cases written
      · simp

/-! ## What is hung -/

theorem member?_setMember (isThere : heap.Has ref) (key : String) (v : Value) (r : ObjectRef)
    (name : String) : (heap.setMember ref key v).member? r name =
      if ref = r ∧ key = name then some v else heap.member? r name := by
  by_cases same : r = ref
  · subst same
    by_cases isKey : name = key
    · subst isKey
      simp [member?_setMember_self isThere]
    · simp [member?_setMember_ne heap isKey, Ne.symm isKey]
  · rw [Heap.member?_of_get? (get?_setMember_ne heap same key v), if_neg]
    exact fun both => same both.1.symm

theorem grafted_last (isThere : store.heap.Has ref) (key : String) (value : Value) :
    Grafted store { store with heap := store.heap.setMember ref key value }
      ⟨.member ref key, [], value⟩ where
  size := Array.size_modify
  contexts context := by simp [context?]
  old r name _ := by simp [member?_setMember isThere, stem]
  new i key rest inside := by simp at inside
  rooted context isContext := by cases isContext

theorem hangs_cons {n : Nat} (here : ∀ name, heap.member? ⟨n⟩ name =
      if name = key then some (stem (n + 1) chain value) else none)
    (below : Hangs heap (n + 1) chain value) : Hangs heap n (key :: chain) value := by
  intro i first rest inside name
  cases i with
  | zero =>
    obtain ⟨rfl, rfl⟩ : key = first ∧ chain = rest := by simpa using inside
    exact here name
  | succ i =>
    have deeper := below i first rest (by simpa using inside) name
    rwa [Nat.add_right_comm n 1 i] at deeper

/-- The second store is the first with a new object at a spot, which is still empty. -/
structure Opened (before after : Store) (spot : Spot) : Prop where
  size : after.heap.objects.size = before.heap.objects.size + 1
  contexts : ∀ context, after.context? context =
    if spot = .context context then some ⟨before.heap.objects.size⟩ else before.context? context
  old : ∀ ref name, before.heap.Has ref → after.heap.member? ref name =
    if spot = .member ref name then some (.object ⟨before.heap.objects.size⟩)
    else before.heap.member? ref name
  empty : after.heap.get? ⟨before.heap.objects.size⟩ = some .empty

theorem opened_link (isThere : store.heap.Has ref) (key : String) :
    Opened store { store with heap := store.heap.link ref key } (.member ref key) where
  size := by simp [Heap.link, Heap.setMember, Heap.alloc]
  contexts context := by simp [context?]
  old r name old := by
    have unchanged : (store.heap.alloc .empty).2.member? r name = store.heap.member? r name :=
      Heap.member?_of_get? (get?_alloc_old old _) name
    rw [Heap.link, member?_setMember (has_alloc isThere _), unchanged]
    simp [Heap.alloc]
  empty := get?_link_new isThere key

/-- The store with a new object for a context. -/
def withContext (store : Store) (context : Int) : Store :=
  ({ store with heap := (store.heap.alloc .empty).2 }).setContext context (store.heap.alloc .empty).1

theorem opened_context (store : Store) (context : Int) :
    Opened store (store.withContext context) (.context context) where
  size := Array.size_push _
  contexts other := by
    unfold withContext
    by_cases same : other = context
    · subst same
      rw [context?_setContext_self, if_pos rfl]
      rfl
    · rw [context?_setContext_ne same, if_neg (by simpa using Ne.symm same)]
      rfl
  old r name old := by
    rw [if_neg (by simp)]
    exact Heap.member?_of_get? (get?_alloc_old old _) name
  empty := Heap.get?_alloc _ _

theorem Opened.has {middle : Store} {spot : Spot} (opened : Opened store middle spot)
    (old : store.heap.Has ref) : middle.heap.Has ref := by
  rw [Heap.Has, opened.size]
  exact Nat.lt_succ_of_lt old

/-- What is hung in the new object hangs, with this object above it, where the object is. -/
theorem Opened.grafted {middle : Store} {spot : Spot} (opened : Opened store middle spot)
    (h : Grafted middle after ⟨.member ⟨store.heap.objects.size⟩ key, chain, value⟩) :
    Grafted store after ⟨spot, key :: chain, value⟩ where
  size := by
    have size : after.heap.objects.size = middle.heap.objects.size + chain.length := h.size
    rw [size, opened.size, List.length_cons, Nat.add_right_comm, Nat.add_assoc]
  contexts context := by
    rw [h.contexts, if_neg (by simp), opened.contexts]
  old ref name old := by
    have differs : Spot.member ⟨store.heap.objects.size⟩ key ≠ .member ref name := by
      rintro ⟨⟩
      exact Nat.lt_irrefl _ old
    rw [h.old ref name (opened.has old), if_neg differs, opened.old ref name old]
    simp [stem]
  new := by
    have below := h.new
    rw [opened.size] at below
    refine hangs_cons (fun name => ?_) below
    rw [h.old _ _ (Heap.has_of_get? opened.empty), opened.size]
    by_cases isKey : name = key
    · simp [isKey]
    · simp [isKey, Ne.symm isKey, Heap.member?, opened.empty]
  rooted _ _ := List.cons_ne_nil _ _

theorem write_grafted (lands : Lands store.heap ref keys owner last chain)
    (isThere : store.heap.Has owner) (written : write path value done ref keys store = .ok () after) :
    Grafted store after ⟨.member owner last, chain, value⟩ := by
  induction keys generalizing store ref done owner last chain with
  | nil => cases lands
  | cons key rest ih =>
    cases lands with
    | last =>
      cases written
      exact grafted_last isThere key value
    | missing missing =>
      have opened := opened_link isThere key
      rw [write_missing missing] at written
      refine opened.grafted (ih (lands_of_empty opened.empty _ _) ?_ written)
      exact Heap.has_of_get? opened.empty
    | next found inner =>
      rw [write_next found] at written
      exact ih inner isThere written

/-! ## Storing -/

/-- The spot of a path in a context, and the keys of the chain. -/
inductive Placed (store : Store) (context : Int) (keys : List String) : Spot → List String → Prop
  | new : store.context? context = none → Placed store context keys (.context context) keys
  | inside {ref owner : ObjectRef} {last : String} {chain : List String} :
      store.context? context = some ref → Lands store.heap ref keys owner last chain →
      Placed store context keys (.member owner last) chain

/-- A spot of the store, if it is in an object. -/
def Spot.IsThere (store : Store) (spot : Spot) : Prop :=
  ∀ owner key, spot = .member owner key → store.heap.Has owner

theorem assign_ok {canceled : Bool} (stored : assign canceled context path value store = .ok () after) :
    (∃ ref, store.context? context = some ref ∧
      write path value [] ref (Store.keys path) store = .ok () after) ∨
    store.context? context = none ∧ write path value [] ⟨store.heap.objects.size⟩ (Store.keys path)
      (store.withContext context) = .ok () after := by
  unfold assign at stored
  split at stored
  · cases stored
  · split at stored
    · cases stored
    · cases found : store.context? context with
      | some ref =>
        rw [bind_of_ok (openContext_of_some found)] at stored
        exact .inl ⟨ref, rfl, stored⟩
      | none =>
        rw [bind_of_ok (openContext_made found).1] at stored
        exact .inr ⟨rfl, stored⟩

theorem assign_placed {canceled : Bool}
    (stored : assign canceled context path value store = .ok () after) :
    ∃ spot chain, Placed store context (Store.keys path) spot chain := by
  obtain ⟨ref, found, written⟩ | ⟨missing, -⟩ := assign_ok stored
  · obtain ⟨key, rest, isPath⟩ := List.exists_cons_of_ne_nil (keys_ne_nil path)
    rw [isPath] at written ⊢
    obtain ⟨owner, last, chain, lands⟩ := write_lands written
    exact ⟨_, chain, .inside found lands⟩
  · exact ⟨_, _, .new missing⟩

theorem assign_grafted {canceled : Bool} {spot : Spot}
    (placed : Placed store context (Store.keys path) spot chain) (isThere : spot.IsThere store)
    (stored : assign canceled context path value store = .ok () after) :
    Grafted store after ⟨spot, chain, value⟩ := by
  obtain ⟨ref, found, written⟩ | ⟨missing, written⟩ := assign_ok stored
  · cases placed with
    | new missing =>
      rw [missing] at found
      cases found
    | inside found' lands =>
      obtain rfl := Option.some.inj (found.symm.trans found')
      exact write_grafted lands (isThere _ _ rfl) written
  · cases placed with
    | new =>
      obtain ⟨key, rest, isPath⟩ := List.exists_cons_of_ne_nil (keys_ne_nil path)
      have opened := opened_context store context
      rw [isPath] at written ⊢
      refine opened.grafted (write_grafted (lands_of_empty opened.empty key rest) ?_ written)
      exact Heap.has_of_get? opened.empty
    | inside found =>
      rw [missing] at found
      cases found

end PageBinding.Store
