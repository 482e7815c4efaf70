import PageBinding.Proofs.Store.Exchange
import PageBinding.Proofs.Store.Obstacle

/-!
Writes to different places of a store can change their order. Two paths go the same way up to some
object, which either write finds or makes, and part there; what hangs below one of two keys says nothing
about the way below the other one. A write that fails finds an obstacle, and the other write neither
makes nor removes it.
-/
namespace PageBinding.Store

variable {before after : Store} {heap : Heap} {ref : ObjectRef} {chain : List String} {value : Value}

/-! ## Two ways from one object -/

/-- Nothing below an object is shared: no object there leads back to itself, and different members of
one lead to different objects. -/
structure Tree (heap : Heap) (ref : ObjectRef) : Prop where
  isThere : ∀ r, heap.Leads ref r → heap.Has r
  back : ∀ r name v, heap.Leads ref r → heap.member? r name = some v → ¬ heap.Reaches v r
  apart : ∀ r name other v u, heap.Leads ref r → other ≠ name → heap.member? r name = some v →
    heap.member? r other = some u → ∀ b, heap.Reaches v b → ¬ heap.Reaches u b

variable {store : Store} {context : Int} {route : List (String × Nat)} {owner next : ObjectRef}
variable {key other last : String} {rest rest' : List String}

theorem Unshared.tree (unshared : store.Unshared) (isAt : store.Route context route ref) :
    Tree store.heap ref where
  isThere r leads := by
    obtain ⟨more, further⟩ := isAt.leads leads
    exact unshared.isThere _ _ _ further
  back r name v leads found := by
    obtain ⟨more, further⟩ := isAt.leads leads
    exact unshared.not_back further found
  apart r name other v u leads ne found found' b reaches := by
    obtain ⟨more, further⟩ := isAt.leads leads
    exact unshared.disjoint further ne found found' reaches

theorem tree_of_empty (empty : heap.get? ref = some .empty) : Tree heap ref := by
  have nothing (name : String) : heap.member? ref name = none := by simp [Heap.member?, empty]
  have alone {r : ObjectRef} (leads : heap.Leads ref r) : r = ref := by
    induction leads with
    | refl => rfl
    | tail _ points ih =>
        obtain ⟨name, v, found, -⟩ := points
        rw [ih, nothing] at found
        cases found
  refine ⟨fun r leads => ?_, fun r name v leads found => ?_, fun r name other v u leads _ found => ?_⟩
  · rw [alone leads]
    exact Heap.has_of_get? empty
  · rw [alone leads, nothing] at found
    cases found
  · rw [alone leads, nothing] at found
    cases found

namespace Tree

theorem step (tree : Tree heap ref) (found : heap.member? ref key = some (.object next)) :
    Tree heap next := by
  have above {r : ObjectRef} (leads : heap.Leads next r) : heap.Leads ref r :=
    .head ⟨key, _, found, by simp [Value.refs]⟩ leads
  exact ⟨fun r leads => tree.isThere r (above leads),
    fun r name v leads => tree.back r name v (above leads),
    fun r name other v u leads => tree.apart r name other v u (above leads)⟩

/-- The spot of some keys is not below another first key, and not under another key. -/
theorem owner_apart (tree : Tree heap ref) (ne : other ≠ key)
    (lands : Lands heap ref (key :: rest) owner last chain) :
    (∀ u, heap.member? ref other = some u → ¬ heap.Reaches u owner) ∧ (owner = ref → last = key) := by
  rcases lands.owner_cases with ⟨rfl, rfl⟩ | ⟨v, found, reaches⟩
  · exact ⟨fun u found => tree.back _ _ u .refl found, fun _ => rfl⟩
  · refine ⟨fun u found' => tree.apart _ _ _ v u .refl ne found found' _ reaches, ?_⟩
    rintro rfl
    exact absurd reaches (tree.back _ _ v .refl found)

section
variable (tree : Tree store.heap ref) (ne : other ≠ key)
  (lands : Lands store.heap ref (key :: rest) owner last chain) {owner' : ObjectRef} {last' : String}
  {chain' : List String} (lands' : Lands store.heap ref (other :: rest') owner' last' chain')
include tree ne lands lands'

theorem spots_differ : Spot.member owner last ≠ .member owner' last' := by
  rintro ⟨⟩
  obtain ⟨notBelow, isKey⟩ := tree.owner_apart ne lands
  rcases lands'.owner_cases with ⟨isRef, isOther⟩ | ⟨u, found, reaches⟩
  · exact ne (isOther.symm.trans (isKey isRef))
  · exact notBelow u found reaches

/-- What is hung below one key does not change where keys lead that begin with another one. -/
theorem lands_kept (grafted : Grafted store after ⟨.member owner last, chain, value⟩) :
    Lands after.heap ref (other :: rest') owner' last' chain' := by
  obtain ⟨notBelow, isKey⟩ := tree.owner_apart ne lands
  refine lands'.congr ?_ fun u found r reaches name => ?_
  · rw [grafted.old ref other (tree.isThere _ .refl), if_neg]
    rintro ⟨⟩
    exact ne (isKey rfl)
  · have leads : store.heap.Leads ref r := by
      obtain ⟨first, mem, leads⟩ := reaches
      exact .head ⟨other, u, found, mem⟩ leads
    rw [grafted.old r name (tree.isThere r leads), if_neg]
    rintro ⟨⟩
    exact notBelow u found reaches

end

end Tree

namespace Opened

variable {spot : Spot} {values : List Value}

theorem known (opened : Opened before after spot)
    (complete : ∀ r, before.Known values r → before.heap.Has r) (known : after.Known values ref) :
    before.Known values ref ∨ ref = ⟨before.heap.objects.size⟩ := by
  induction known with
  | context found =>
      rw [opened.contexts] at found
      split at found
      · exact .inr (Option.some.inj found).symm
      · exact .inl (.context found)
  | given isGiven mem => exact .inl (.given isGiven mem)
  | member _ found mem ih =>
      rcases ih with old | rfl
      · rw [opened.old _ _ (complete _ old)] at found
        split at found
        · cases found
          exact .inr (by simpa [Value.refs] using mem)
        · exact .inl (.member old found mem)
      · simp [Heap.member?, opened.empty] at found

theorem complete (opened : Opened before after spot)
    (complete : ∀ r, before.Known values r → before.heap.Has r) :
    ∀ r, after.Known values r → after.heap.Has r := by
  intro r isKnown
  rcases opened.known complete isKnown with old | rfl
  · exact opened.has (complete r old)
  · exact Heap.has_of_get? opened.empty

theorem alike (opened : Opened before after spot) {one two : Store} (h : Alike after one two) :
    Alike before one two := by
  obtain ⟨π, fixed, renamed⟩ := h
  exact ⟨π, fun r old => fixed r (opened.has old), renamed⟩

end Opened

/-! ## Two writes -/

section
variable {one two oneTwo twoOne : Store} {v w : Value} {path path' : String}
variable {p q done done' : List String}

/-- A write below a member leaves this member. -/
theorem member?_of_below (tree : Tree store.heap ref)
    (found : store.heap.member? ref key = some (.object next))
    (written : write path v done next (other :: rest) store = .ok () after) :
    after.heap.member? ref key = some (.object next) := by
  obtain ⟨owner, last, chain, lands⟩ := write_lands written
  have grafted := write_grafted lands ((tree.step found).isThere _ lands.leads) written
  rw [grafted.old ref key (tree.isThere _ .refl), if_neg, found]
  rintro ⟨⟩
  exact tree.back _ _ _ .refl found ⟨next, by simp [Value.refs], lands.leads⟩

theorem member?_of_new (isThere : store.heap.Has ref)
    (written : write path v done ⟨store.heap.objects.size⟩ (other :: rest)
      { store with heap := store.heap.link ref key } = .ok () after) :
    after.heap.member? ref key = some (.object ⟨store.heap.objects.size⟩) := by
  have opened := opened_link isThere key
  have lands := lands_of_empty opened.empty other rest
  have grafted := write_grafted lands (Heap.has_of_get? opened.empty) written
  rw [grafted.old ref key (opened.has isThere), if_neg, opened.old ref key isThere, if_pos rfl]
  rintro ⟨⟩
  exact Nat.lt_irrefl _ isThere

theorem write_comm (tree : Tree store.heap ref)
    (complete : ∀ r, store.Known [v, w] r → store.heap.Has r) (notBefore : ¬ p <+: q)
    (notAfter : ¬ q <+: p) (first : write path v done ref p store = .ok () one)
    (firstThen : write path' w done' ref q one = .ok () oneTwo)
    (second : write path' w done' ref q store = .ok () two)
    (secondThen : write path v done ref p two = .ok () twoOne) :
    Alike store oneTwo twoOne := by
  induction p generalizing q store ref done done' with
  | nil => exact absurd List.nil_prefix notBefore
  | cons key p ih =>
      cases q with
      | nil => exact absurd List.nil_prefix notAfter
      | cons other q =>
          by_cases same : other = key
          · subst same
            rw [List.prefix_cons_inj] at notBefore notAfter
            obtain ⟨second', p, rfl⟩ := List.exists_cons_of_ne_nil
              (fun empty : p = [] => notBefore (empty ▸ List.nil_prefix))
            obtain ⟨third, q, rfl⟩ := List.exists_cons_of_ne_nil
              (fun empty : q = [] => notAfter (empty ▸ List.nil_prefix))
            obtain ⟨owner, last, chain, lands⟩ := write_lands first
            cases lands with
            | next found =>
                rw [write_next found] at first second
                rw [write_next (member?_of_below tree found first)] at firstThen
                rw [write_next (member?_of_below tree found second)] at secondThen
                exact ih (tree.step found) complete notBefore notAfter first firstThen second secondThen
            | missing missing =>
                -- whichever write comes first makes the same object, and both go on inside it
                have isThere := tree.isThere _ .refl
                have opened := opened_link isThere other
                rw [write_missing missing] at first second
                rw [write_next (member?_of_new isThere first)] at firstThen
                rw [write_next (member?_of_new isThere second)] at secondThen
                exact opened.alike (ih (tree_of_empty opened.empty) (opened.complete complete)
                  notBefore notAfter first firstThen second secondThen)
          · obtain ⟨owner, last, chain, lands⟩ := write_lands first
            obtain ⟨owner', last', chain', lands'⟩ := write_lands second
            have isThere := tree.isThere _ lands.leads
            have isThere' := tree.isThere _ lands'.leads
            have grafted := write_grafted lands isThere first
            have grafted' := write_grafted lands' isThere' second
            have graftedThen := write_grafted (tree.lands_kept same lands lands' grafted)
              (grafted.has isThere') firstThen
            have graftedThen' := write_grafted (tree.lands_kept (Ne.symm same) lands' lands grafted')
              (grafted'.has isThere) secondThen
            refine grafts_comm grafted graftedThen grafted' graftedThen' ?_ ?_
              (tree.spots_differ same lands lands') complete
            · rintro _ _ ⟨⟩
              exact isThere
            · rintro _ _ ⟨⟩
              exact isThere'

end

/-! ## Two paths -/

section
variable {one two oneTwo twoOne : Store} {v w : Value} {path path' : String}
variable {canceled canceled' : Bool} {context' : Int}

theorem write_context? {done keys : List String}
    (written : write path v done ref keys store = .ok () after) (context : Int) :
    after.context? context = store.context? context := by
  have contexts := (write_grows written (.refl _ (some (Store.owner store.heap ref keys)) v)
    fun _ => rfl).2
  rw [context?, context?, contexts]

theorem assign_inside (found : store.context? context = some ref)
    (stored : assign canceled context path v store = .ok () after) :
    write path v [] ref (keys path) store = .ok () after := by
  obtain ⟨ref', found', written⟩ | ⟨missing, -⟩ := assign_ok stored
  · obtain rfl := Option.some.inj (found.symm.trans found')
    exact written
  · rw [found] at missing
    cases missing

theorem assign_comm_within (unshared : store.Unshared)
    (complete : ∀ r, store.Known [v, w] r → store.heap.Has r) (notBefore : ¬ keys path <+: keys path')
    (notAfter : ¬ keys path' <+: keys path)
    (first : assign canceled context path v store = .ok () one)
    (firstThen : assign canceled' context path' w one = .ok () oneTwo)
    (second : assign canceled' context path' w store = .ok () two)
    (secondThen : assign canceled context path v two = .ok () twoOne) :
    Alike store oneTwo twoOne := by
  obtain ⟨ref, found, written⟩ | ⟨missing, written⟩ := assign_ok first
  · have written' := assign_inside found second
    have foundOne := (write_context? written context).trans found
    have foundTwo := (write_context? written' context).trans found
    exact write_comm (unshared.tree (.root found)) complete notBefore notAfter written
      (assign_inside foundOne firstThen) written' (assign_inside foundTwo secondThen)
  · obtain ⟨ref, found, -⟩ | ⟨-, written'⟩ := assign_ok second
    · rw [missing] at found
      cases found
    · have opened := opened_context store context
      have found : (store.withContext context).context? context = some ⟨store.heap.objects.size⟩ := by
        rw [opened.contexts, if_pos rfl]
      have foundOne := (write_context? written context).trans found
      have foundTwo := (write_context? written' context).trans found
      exact opened.alike (write_comm (tree_of_empty opened.empty) (opened.complete complete)
        notBefore notAfter written (assign_inside foundOne firstThen) written'
        (assign_inside foundTwo secondThen))

/-- An object below one context is not below another one. -/
theorem Unshared.contexts_apart (unshared : store.Unshared) (ne : context ≠ context') {top top' : ObjectRef}
    (found : store.context? context = some top) (found' : store.context? context' = some top')
    (leads : store.heap.Leads top ref) : ¬ store.heap.Leads top' ref := by
  intro leads'
  obtain ⟨more, isAt⟩ := (Route.root found).leads leads
  obtain ⟨more', isAt'⟩ := (Route.root found').leads leads'
  exact ne (unshared.once _ _ _ _ _ isAt isAt').1

namespace Placed

variable {spot spot' : Spot} {p q chain' : List String}

theorem isThere (unshared : store.Unshared) (placed : Placed store context p spot chain) :
    spot.IsThere store := by
  rintro owner key rfl
  cases placed with
  | inside found lands => exact (unshared.tree (.root found)).isThere _ lands.leads

theorem spots_differ (unshared : store.Unshared) (ne : context ≠ context')
    (placed : Placed store context p spot chain) (placed' : Placed store context' q spot' chain') :
    spot ≠ spot' := by
  rintro rfl
  cases placed with
  | new =>
      cases placed' with
      | new => exact ne rfl
  | inside found lands =>
      cases placed' with
      | inside found' lands' => exact unshared.contexts_apart ne found found' lands.leads lands'.leads

theorem kept (unshared : store.Unshared) (ne : context ≠ context')
    (placed : Placed store context p spot chain) (placed' : Placed store context' q spot' chain')
    (grafted : Grafted store after ⟨spot, chain, v⟩) : Placed after context' q spot' chain' := by
  have sameContext : after.context? context' = store.context? context' := by
    rw [grafted.contexts, if_neg]
    rintro rfl
    cases placed with
    | new => exact ne rfl
  cases placed' with
  | new missing => exact .new (sameContext.trans missing)
  | inside found' lands' =>
      refine .inside (sameContext.trans found') (lands'.congr_below fun r leads name => ?_)
      rw [grafted.old r name ((unshared.tree (.root found')).isThere r leads), if_neg]
      rintro rfl
      cases placed with
      | inside found lands => exact unshared.contexts_apart ne found found' lands.leads leads

end Placed

theorem assign_comm_across (unshared : store.Unshared)
    (complete : ∀ r, store.Known [v, w] r → store.heap.Has r) (ne : context ≠ context')
    (first : assign canceled context path v store = .ok () one)
    (firstThen : assign canceled' context' path' w one = .ok () oneTwo)
    (second : assign canceled' context' path' w store = .ok () two)
    (secondThen : assign canceled context path v two = .ok () twoOne) :
    Alike store oneTwo twoOne := by
  obtain ⟨spot, chain, placed⟩ := assign_placed first
  obtain ⟨spot', chain', placed'⟩ := assign_placed second
  have isThere := placed.isThere unshared
  have isThere' := placed'.isThere unshared
  have grafted := assign_grafted placed isThere first
  have grafted' := assign_grafted placed' isThere' second
  have graftedThen := assign_grafted (placed.kept unshared ne placed' grafted)
    (grafted.isThere isThere') firstThen
  have graftedThen' := assign_grafted (placed'.kept unshared ne.symm placed grafted')
    (grafted'.isThere isThere) secondThen
  exact grafts_comm grafted graftedThen grafted' graftedThen' isThere isThere'
    (placed.spots_differ unshared ne placed') complete

/-! ## Writes that fail -/

theorem follow_across (unshared : store.Unshared) (ne : context ≠ context')
    (stored : assign canceled context path v store = .ok () after) (keys : List String) :
    follow after.heap (after.root context') keys = follow store.heap (store.root context') keys := by
  obtain ⟨grown, kept⟩ := assign_grows stored
  rw [root, kept.others context' ne.symm, ← root]
  refine follow_congr keys fun r reaches => ?_
  obtain ⟨top', mem, leads⟩ := reaches
  cases found' : store.context? context' with
  | none => simp [root, found', Value.refs] at mem
  | some ref =>
      obtain rfl : top' = ref := by simpa [root, found', Value.refs] using mem
      refine grown.kept r ((unshared.tree (.root found')).isThere r leads) fun isOwner => ?_
      obtain ⟨top, found, rfl⟩ := Option.map_eq_some_iff.1 isOwner
      exact unshared.contexts_apart ne found found' (leads_owner _ _ _) leads

/-- A write to another place makes no obstacle and takes none away. -/
theorem obstacle_kept (unshared : store.Unshared)
    (independent : context ≠ context' ∨ ¬ keys path <+: keys path')
    (stored : assign canceled context path v store = .ok () after) (part : List String) :
    Obstacle after.heap (after.root context') (keys path') part ↔
      Obstacle store.heap (store.root context') (keys path') part := by
  have solid_iff (isPrefix : part <+: keys path') :
      Solid (follow after.heap (after.root context') part) ↔
        Solid (follow store.heap (store.root context') part) := by
    by_cases same : context = context'
    · subst same
      have notBefore := independent.resolve_left (not_not_intro rfl)
      have notBelow : ¬ keys path <+: part := fun below => notBefore (below.trans isPrefix)
      obtain ⟨-, update⟩ := assign_update unshared stored
      by_cases above : part <+: keys path
      · have strict : part ≠ keys path := fun same => notBelow (same ▸ List.prefix_rfl)
        obtain ⟨ref, now, before | before, -⟩ := update.follow_above above strict
        · rw [now, before]
        · rw [now, before]
          exact iff_of_false not_solid_object not_solid_null
      · rw [(update.follow_aside above notBelow).1]
    · rw [follow_across unshared same stored]
  constructor
  · intro h
    exact ⟨h.nonempty, h.isPrefix, h.strict, (solid_iff h.isPrefix).1 h.solid⟩
  · intro h
    exact ⟨h.nonempty, h.isPrefix, h.strict, (solid_iff h.isPrefix).2 h.solid⟩

theorem refused_kept (unshared : store.Unshared)
    (independent : context ≠ context' ∨ ¬ keys path <+: keys path')
    (stored : assign canceled context path v store = .ok () after) {e : StoreError} :
    Refused after canceled' context' path' e ↔ Refused store canceled' context' path' e := by
  have kept := obstacle_kept unshared independent stored
  exact ⟨fun refused => refused.imp fun part => (kept part).1,
    fun refused => refused.imp fun part => (kept part).2⟩

end

/-! ## Any order -/

/-- A value to be stored. -/
structure Write where
  canceled : Bool
  context : Int
  path : String
  value : Value

namespace Write

/-- What comes of a write, and the store that it leaves. -/
def run (a : Write) (store : Store) : Except StoreError Unit × Store :=
  match assign a.canceled a.context a.path a.value store with
  | .ok _ after => (.ok (), after)
  | .error e after => (.error e, after)

/-- Neither of two writes is to a place that the other one's path leads to or through. -/
def Independent (a b : Write) : Prop :=
  a.context ≠ b.context ∨ ¬ keys a.path <+: keys b.path ∧ ¬ keys b.path <+: keys a.path

variable {a b : Write}

theorem run_of_ok (stored : assign a.canceled a.context a.path a.value store = .ok () after) :
    a.run store = (.ok (), after) := by
  rw [run, stored]

theorem run_of_refused {e : StoreError} (refused : Refused store a.canceled a.context a.path e) :
    a.run store = (.error e, store) := by
  rw [run, assign_error_iff.2 ⟨rfl, refused⟩]

theorem run_cases (a : Write) (store : Store) :
    (∃ after, assign a.canceled a.context a.path a.value store = .ok () after) ∨
      ∃ e, Refused store a.canceled a.context a.path e := by
  cases stored : assign a.canceled a.context a.path a.value store with
  | ok u after => exact .inl ⟨after, rfl⟩
  | error e after => exact .inr ⟨e, (assign_error_iff.1 stored).2⟩

namespace Independent

theorem symm (h : a.Independent b) : b.Independent a :=
  h.imp Ne.symm And.symm

theorem notThrough (h : a.Independent b) :
    a.context ≠ b.context ∨ ¬ keys a.path <+: keys b.path :=
  h.imp_right And.left

/-- A write succeeds after an independent one if it did before. -/
theorem ok_kept (h : a.Independent b) (unshared : store.Unshared) {one two : Store}
    (first : assign a.canceled a.context a.path a.value store = .ok () one)
    (second : assign b.canceled b.context b.path b.value store = .ok () two) :
    ∃ after, assign b.canceled b.context b.path b.value one = .ok () after := by
  rcases run_cases b one with ⟨after, stored⟩ | ⟨e, refused⟩
  · exact ⟨after, stored⟩
  · have before := (refused_kept unshared h.notThrough first).1 refused
    rw [assign_error_iff.2 ⟨rfl, before⟩] at second
    cases second

theorem comm_of_ok (h : a.Independent b) (unshared : store.Unshared)
    (complete : ∀ r, store.Known [a.value, b.value] r → store.heap.Has r)
    {one two oneTwo twoOne : Store}
    (first : assign a.canceled a.context a.path a.value store = .ok () one)
    (firstThen : assign b.canceled b.context b.path b.value one = .ok () oneTwo)
    (second : assign b.canceled b.context b.path b.value store = .ok () two)
    (secondThen : assign a.canceled a.context a.path a.value two = .ok () twoOne) :
    Alike store oneTwo twoOne := by
  by_cases same : a.context = b.context
  · obtain ⟨notBefore, notAfter⟩ := h.resolve_left (not_not_intro same)
    rw [← same] at firstThen second
    exact assign_comm_within unshared complete notBefore notAfter first firstThen second secondThen
  · exact assign_comm_across unshared complete same first firstThen second secondThen

end Independent

end Write

theorem Unshared.complete (unshared : store.Unshared) {v w : Value}
    (isThere : ∀ ref, store.heap.Reaches v ref → store.heap.Has ref)
    (isThere' : ∀ ref, store.heap.Reaches w ref → store.heap.Has ref) :
    ∀ ref, store.Known [v, w] ref → store.heap.Has ref := by
  have cases {ref : ObjectRef} (known : store.Known [v, w] ref) :
      (∃ context route, store.Route context route ref) ∨ store.heap.Reaches v ref ∨
        store.heap.Reaches w ref := by
    induction known with
    | context found => exact .inl ⟨_, [], .root found⟩
    | given isGiven mem =>
        rcases List.mem_pair.1 isGiven with rfl | rfl
        · exact .inr (.inl ⟨_, mem, .refl⟩)
        · exact .inr (.inr ⟨_, mem, .refl⟩)
    | member _ found mem ih =>
        have points : store.heap.Points _ _ := ⟨_, _, found, mem⟩
        rcases ih with ⟨context, route, isAt⟩ | reaches | reaches
        · obtain ⟨more, further⟩ := isAt.points points
          exact .inl ⟨context, _, further⟩
        · exact .inr (.inl (reaches.step points))
        · exact .inr (.inr (reaches.step points))
  intro ref known
  rcases cases known with ⟨context, route, isAt⟩ | reaches | reaches
  · exact unshared.isThere _ _ _ isAt
  · exact isThere ref reaches
  · exact isThere' ref reaches

/-- Two writes to different places of a store in which nothing is shared can change their order. Each of
them succeeds or fails with the same error, whether it comes first or second. The stores that they leave
are equal: they differ only in the numbers of objects that were made, so that every path reads the
same. The values may share objects with the store and with each other. -/
theorem independent_writes_commute (unshared : store.Unshared) {a b : Write}
    (isThere : ∀ ref, store.heap.Reaches a.value ref → store.heap.Has ref)
    (isThere' : ∀ ref, store.heap.Reaches b.value ref → store.heap.Has ref)
    (independent : a.Independent b) :
    (b.run (a.run store).2).1 = (b.run store).1 ∧ (a.run (b.run store).2).1 = (a.run store).1 ∧
    ∃ π : Equiv.Perm ObjectRef, (∀ ref, store.heap.Has ref → π ref = ref) ∧
      Renamed π (b.run (a.run store).2).2 (a.run (b.run store).2).2 ∧
      ∀ context path, (a.run (b.run store).2).2.read context path =
        ((b.run (a.run store).2).2.read context path).rename π := by
  have conclude {oneTwo twoOne : Store} (alike : Alike store oneTwo twoOne) :
      ∃ π : Equiv.Perm ObjectRef, (∀ ref, store.heap.Has ref → π ref = ref) ∧
        Renamed π oneTwo twoOne ∧
        ∀ context path, twoOne.read context path = (oneTwo.read context path).rename π := by
    obtain ⟨π, fixed, renamed⟩ := alike
    exact ⟨π, fixed, renamed, renamed.read⟩
  rcases a.run_cases store with ⟨one, first⟩ | ⟨e, refused⟩
  · rcases b.run_cases store with ⟨two, second⟩ | ⟨e', refused'⟩
    · obtain ⟨oneTwo, firstThen⟩ := independent.ok_kept unshared first second
      obtain ⟨twoOne, secondThen⟩ := independent.symm.ok_kept unshared second first
      rw [Write.run_of_ok first, Write.run_of_ok second, Write.run_of_ok firstThen,
        Write.run_of_ok secondThen]
      exact ⟨rfl, rfl, conclude (independent.comm_of_ok unshared
        (unshared.complete isThere isThere') first firstThen second secondThen)⟩
    · have refusedThen := (refused_kept unshared independent.notThrough first).2 refused'
      rw [Write.run_of_ok first, Write.run_of_refused refused', Write.run_of_refused refusedThen,
        Write.run_of_ok first]
      exact ⟨rfl, rfl, conclude (.refl store one)⟩
  · rcases b.run_cases store with ⟨two, second⟩ | ⟨e', refused'⟩
    · have refusedThen := (refused_kept unshared independent.symm.notThrough second).2 refused
      rw [Write.run_of_refused refused, Write.run_of_ok second, Write.run_of_refused refusedThen]
      exact ⟨rfl, rfl, conclude (.refl store two)⟩
    · rw [Write.run_of_refused refused, Write.run_of_refused refused', Write.run_of_refused refused]
      exact ⟨rfl, rfl, conclude (.refl store store)⟩

/-- A write that makes an object for `a.x`. -/
def writeInX : Write := ⟨false, 1, "a.x.y", .object ⟨2⟩⟩

/-- A write that makes an object for `a.z`. -/
def writeInZ : Write := ⟨false, 1, "a.z.w", .bool true⟩

/-- Each of the two writes makes an object, and the one that comes first gets the lower number. -/
theorem nestedStore_writes_commute :
    ∃ π, Renamed π (writeInZ.run (writeInX.run nestedStore).2).2
        (writeInX.run (writeInZ.run nestedStore).2).2 ∧
      π ⟨3⟩ = ⟨4⟩ ∧ π ⟨4⟩ = ⟨3⟩ ∧ π ⟨2⟩ = ⟨2⟩ := by
  have nothing (ref : ObjectRef) (reaches : nestedStore.heap.Reaches writeInZ.value ref) :
      nestedStore.heap.Has ref := by
    simp [writeInZ, Heap.Reaches, Value.refs] at reaches
  have independent : writeInX.Independent writeInZ := .inr (by decide)
  obtain ⟨-, -, π, fixed, renamed, reads⟩ := independent_writes_commute unshared_nestedStore
    apart_nestedStore.isThere nothing independent
  have early : (writeInZ.run (writeInX.run nestedStore).2).2.read 1 "a.x" = .object ⟨3⟩ := rfl
  have late : (writeInX.run (writeInZ.run nestedStore).2).2.read 1 "a.x" = .object ⟨4⟩ := rfl
  have early' : (writeInX.run (writeInZ.run nestedStore).2).2.read 1 "a.z" = .object ⟨3⟩ := rfl
  have late' : (writeInZ.run (writeInX.run nestedStore).2).2.read 1 "a.z" = .object ⟨4⟩ := rfl
  have first := reads 1 "a.x"
  have second := reads 1 "a.z"
  rw [early, late] at first
  rw [early', late'] at second
  rw [Value.rename, Value.object.injEq] at first second
  exact ⟨π, renamed, first.symm, second.symm, fixed _ (by simp [nestedStore, Heap.Has])⟩

end PageBinding.Store
