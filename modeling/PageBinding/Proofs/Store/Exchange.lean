import PageBinding.Proofs.Store.Graft
import PageBinding.Proofs.Store.Renaming

/-!
Grafts at different spots of a store can change their order. Each makes its objects when it is its turn,
so they have other numbers then, and nothing else differs.
-/
namespace PageBinding.Store

variable {before after middle : Store} {g h : Graft} {heap : Heap} {n m : Nat} {ref : ObjectRef}
variable {chain : List String} {value : Value}

/-! ## Two grafts -/

/-- The second store is the first with two grafts in it, whose chains begin at the numbers `n` and
`m`. -/
structure Bears (before after : Store) (n : Nat) (g : Graft) (m : Nat) (h : Graft) : Prop where
  contexts : ∀ context, after.context? context =
    if g.spot = .context context then some ⟨n⟩
    else if h.spot = .context context then some ⟨m⟩ else before.context? context
  old : ∀ ref name, before.heap.Has ref → after.heap.member? ref name =
    if g.spot = .member ref name then some (stem n g.chain g.value)
    else if h.spot = .member ref name then some (stem m h.chain h.value)
    else before.heap.member? ref name
  first : Hangs after.heap n g.chain g.value
  second : Hangs after.heap m h.chain h.value
  rooted : ∀ context, g.spot = .context context → g.chain ≠ []
  rooted' : ∀ context, h.spot = .context context → h.chain ≠ []

theorem Bears.symm (bears : Bears before after n g m h) (differ : g.spot ≠ h.spot) :
    Bears before after m h n g where
  contexts context := by
    rw [bears.contexts]
    split
    · rename_i here
      rw [if_neg fun other => differ (here.trans other.symm)]
    · rfl
  old ref name isThere := by
    rw [bears.old ref name isThere]
    split
    · rename_i here
      rw [if_neg fun other => differ (here.trans other.symm)]
    · rfl
  first := bears.second
  second := bears.first
  rooted := bears.rooted'
  rooted' := bears.rooted

theorem drop_cons_of_lt {i : Nat} (inside : i < chain.length) :
    ∃ key rest, chain.drop i = key :: rest :=
  ⟨_, _, List.drop_eq_getElem_cons inside⟩

theorem lt_of_drop_cons {i : Nat} {key : String} {rest : List String}
    (inside : chain.drop i = key :: rest) : i + rest.length < chain.length := by
  have length := congrArg List.length inside
  rw [List.length_drop, List.length_cons] at length
  omega

theorem Grafted.has (grafted : Grafted before after g) (old : before.heap.Has ref) :
    after.heap.Has ref := by
  rw [Heap.Has, grafted.size]
  exact Nat.lt_add_right _ old

theorem Grafted.isThere (grafted : Grafted before after g) {spot : Spot}
    (isThere : spot.IsThere before) : spot.IsThere after :=
  fun owner key isSpot => grafted.has (isThere owner key isSpot)

theorem Grafted.bears (first : Grafted before middle g) (second : Grafted middle after h)
    (isThere : h.spot.IsThere before) (differ : g.spot ≠ h.spot) :
    Bears before after before.heap.objects.size g (before.heap.objects.size + g.chain.length) h := by
  refine Bears.symm ⟨fun context => ?_, fun ref name old => ?_, ?_, ?_, second.rooted, first.rooted⟩
    differ.symm
  · rw [second.contexts, first.size, first.contexts]
  · rw [second.old ref name (first.has old), first.size, first.old ref name old]
  · exact first.size ▸ second.new
  · intro i key rest inside name
    have isNew : middle.heap.Has ⟨before.heap.objects.size + i⟩ := by
      have := lt_of_drop_cons inside
      show before.heap.objects.size + i < middle.heap.objects.size
      rw [first.size]
      omega
    rw [second.old _ _ isNew, if_neg, first.new i key rest inside]
    intro isSpot
    exact absurd (isThere _ _ isSpot) (Nat.not_lt.2 (Nat.le_add_right _ i))

/-! ## Other numbers -/

/-- Behind the first `n` numbers, the next `a` change places with the `b` after them. -/
def swapped (n a b i : Nat) : Nat :=
  if i < n then i else if i < n + a then i + b else if i < n + a + b then i - a else i

theorem swapped_swapped (n a b i : Nat) : swapped n b a (swapped n a b i) = i := by
  unfold swapped
  split_ifs <;> omega

theorem swapped_old {a b i : Nat} (old : i < n) : swapped n a b i = i :=
  if_pos old

theorem swapped_first {a b i : Nat} (inside : i < a) : swapped n a b (n + i) = n + b + i := by
  unfold swapped
  split_ifs <;> omega

theorem swapped_second {a b i : Nat} (inside : i < b) : swapped n a b (n + a + i) = n + i := by
  unfold swapped
  split_ifs <;> omega

theorem swapped_lt_iff {a b i : Nat} : swapped n a b i < n + b + a ↔ i < n + a + b := by
  unfold swapped
  split_ifs <;> omega

def renumber (n a b : Nat) : Equiv.Perm ObjectRef where
  toFun ref := ⟨swapped n a b ref.index⟩
  invFun ref := ⟨swapped n b a ref.index⟩
  left_inv ref := congrArg ObjectRef.mk (swapped_swapped n a b ref.index)
  right_inv ref := congrArg ObjectRef.mk (swapped_swapped n b a ref.index)

theorem stem_rename {π : ObjectRef → ObjectRef} (fixed : value.rename π = value)
    (top : chain ≠ [] → π ⟨n⟩ = ⟨m⟩) : (stem n chain value).rename π = stem m chain value := by
  unfold stem
  split
  · exact fixed
  · rename_i isChain
    rw [Value.rename, top isChain]

theorem mem_stem (mem : ref ∈ (stem n chain value).refs) :
    ref ∈ value.refs ∨ chain ≠ [] ∧ ref = ⟨n⟩ := by
  unfold stem at mem
  split at mem
  · exact .inl mem
  · rename_i isChain
    exact .inr ⟨isChain, by simpa [Value.refs] using mem⟩

/-- One of the objects of a chain. -/
def OnChain (n : Nat) (chain : List String) (ref : ObjectRef) : Prop :=
  ∃ i < chain.length, ref = ⟨n + i⟩

theorem onChain_first (isChain : chain ≠ []) : OnChain n chain ⟨n⟩ :=
  ⟨0, List.length_pos_iff.2 isChain, rfl⟩

theorem Hangs.member (hangs : Hangs heap n chain value) {owner : ObjectRef} (on : OnChain n chain owner)
    {name : String} {v : Value} (found : heap.member? owner name = some v) (mem : ref ∈ v.refs) :
    ref ∈ value.refs ∨ OnChain n chain ref := by
  obtain ⟨i, inside, rfl⟩ := on
  obtain ⟨key, rest, shape⟩ := drop_cons_of_lt inside
  rw [hangs i key rest shape] at found
  split at found
  · cases found
    refine (mem_stem mem).imp_right ?_
    rintro ⟨isChain, rfl⟩
    have := lt_of_drop_cons shape
    have := List.length_pos_iff.2 isChain
    exact ⟨i + 1, by omega, rfl⟩
  · cases found

theorem Hangs.renamed {later : Heap} {k : Nat} {π : ObjectRef → ObjectRef}
    (hangs : Hangs heap n chain value) (hangs' : Hangs later k chain value)
    (fixed : value.rename π = value) (moved : ∀ i < chain.length, π ⟨n + i⟩ = ⟨k + i⟩)
    (on : OnChain n chain ref) (name : String) :
    later.member? (π ref) name = (heap.member? ref name).map (Value.rename π) := by
  obtain ⟨i, inside, rfl⟩ := on
  obtain ⟨key, rest, shape⟩ := drop_cons_of_lt inside
  rw [moved i inside, hangs i key rest shape, hangs' i key rest shape]
  split
  · rw [Option.map_some, stem_rename fixed]
    intro isChain
    have := lt_of_drop_cons shape
    have := List.length_pos_iff.2 isChain
    exact moved (i + 1) (by omega)
  · rfl

namespace Bears

variable (complete : ∀ ref, before.Known [g.value, h.value] ref → before.heap.Has ref)
include complete

theorem known (bears : Bears before after n g m h) (known : after.Known [] ref) :
    before.Known [g.value, h.value] ref ∨ OnChain n g.chain ref ∨ OnChain m h.chain ref := by
  induction known with
  | context found =>
    rw [bears.contexts] at found
    split at found
    · rename_i here
      cases found
      exact .inr (.inl (onChain_first (bears.rooted _ here)))
    · split at found
      · rename_i here
        cases found
        exact .inr (.inr (onChain_first (bears.rooted' _ here)))
      · exact .inl (.context found)
  | given mem => cases mem
  | member _ found mem ih =>
    have first {r : ObjectRef} (mem : r ∈ g.value.refs) : before.Known [g.value, h.value] r :=
      .given List.mem_cons_self mem
    have second {r : ObjectRef} (mem : r ∈ h.value.refs) : before.Known [g.value, h.value] r :=
      .given (List.mem_cons_of_mem _ List.mem_cons_self) mem
    rcases ih with old | on | on
    · rw [bears.old _ _ (complete _ old)] at found
      split at found
      · cases found
        rcases mem_stem mem with inValue | ⟨isChain, rfl⟩
        · exact .inl (first inValue)
        · exact .inr (.inl (onChain_first isChain))
      · split at found
        · cases found
          rcases mem_stem mem with inValue | ⟨isChain, rfl⟩
          · exact .inl (second inValue)
          · exact .inr (.inr (onChain_first isChain))
        · exact .inl (.member old found mem)
    · exact (bears.first.member on found mem).imp first .inl
    · exact (bears.second.member on found mem).imp second .inr

theorem renamed {other : Store} {n' m' : Nat} {π : Equiv.Perm ObjectRef}
    (bears : Bears before after n g m h) (bears' : Bears before other n' g m' h)
    (fixed : ∀ ref, before.heap.Has ref → π ref = ref)
    (first : ∀ i < g.chain.length, π ⟨n + i⟩ = ⟨n' + i⟩)
    (second : ∀ i < h.chain.length, π ⟨m + i⟩ = ⟨m' + i⟩)
    (isThere : ∀ ref, other.heap.Has (π ref) ↔ after.heap.Has ref) : Renamed π after other := by
  have same {v : Value} (known : ∀ r ∈ v.refs, before.Known [g.value, h.value] r) : v.rename π = v :=
    Value.rename_of_fixed v fun r mem => fixed r (complete r (known r mem))
  have sameFirst : g.value.rename π = g.value := same fun r mem => .given (by simp) mem
  have sameSecond : h.value.rename π = h.value := same fun r mem => .given (by simp) mem
  have topFirst (isChain : g.chain ≠ []) : π ⟨n⟩ = ⟨n'⟩ := first 0 (List.length_pos_iff.2 isChain)
  have topSecond (isChain : h.chain ≠ []) : π ⟨m⟩ = ⟨m'⟩ := second 0 (List.length_pos_iff.2 isChain)
  refine ⟨fun context => ?_, fun ref known name => ?_, isThere⟩
  · rw [bears.contexts, bears'.contexts]
    split
    · rename_i here
      rw [Option.map_some, topFirst (bears.rooted _ here)]
    · split
      · rename_i here
        rw [Option.map_some, topSecond (bears.rooted' _ here)]
      · cases found : before.context? context with
        | none => rfl
        | some ref => rw [Option.map_some, fixed ref (complete ref (.context found))]
  · rcases bears.known complete known with old | on | on
    · have isOld := complete ref old
      rw [fixed ref isOld, bears.old ref name isOld, bears'.old ref name isOld]
      split
      · rw [Option.map_some, stem_rename sameFirst topFirst]
      · split
        · rw [Option.map_some, stem_rename sameSecond topSecond]
        · cases found : before.heap.member? ref name with
          | none => rfl
          | some v => rw [Option.map_some, same fun r mem => .member old found mem]
    · exact bears.first.renamed bears'.first sameFirst first on name
    · exact bears.second.renamed bears'.second sameSecond second on name

end Bears

/-- Grafts at different spots can change their order. -/
theorem grafts_comm {store one two oneTwo twoOne : Store} (first : Grafted store one g)
    (firstThen : Grafted one oneTwo h) (second : Grafted store two h) (secondThen : Grafted two twoOne g)
    (isThere : g.spot.IsThere store) (isThere' : h.spot.IsThere store) (differ : g.spot ≠ h.spot)
    (complete : ∀ ref, store.Known [g.value, h.value] ref → store.heap.Has ref) :
    Alike store oneTwo twoOne := by
  have fixed (ref : ObjectRef) (old : store.heap.Has ref) :
      renumber store.heap.objects.size g.chain.length h.chain.length ref = ref :=
    ObjectRef.eq_of_index (swapped_old old)
  refine ⟨_, fixed, Bears.renamed complete (first.bears firstThen isThere' differ)
    ((second.bears secondThen isThere differ.symm).symm differ.symm) fixed
    (fun i inside => congrArg ObjectRef.mk (swapped_first inside))
    (fun i inside => congrArg ObjectRef.mk (swapped_second inside)) fun ref => ?_⟩
  rw [Heap.Has, Heap.Has, secondThen.size, second.size, firstThen.size, first.size]
  exact swapped_lt_iff

end PageBinding.Store
