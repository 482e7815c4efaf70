import PageBinding.Proofs.Run.Holding
import PageBinding.Proofs.Run.Locals
import PageBinding.Proofs.Source.Compiled

/-!
Where the objects in a value come from. Expressions make no objects: each one in the value of an
expression is held by the page, or by a context that the expression reads. What setup statements name
and what owns a property that is written are held by the page, since they read no data.
-/
namespace PageBinding

variable {w : World} {f : Frame} {locals next last : Locals} {held : ObjectRef → Prop} {u v : Value}

/-! ## Operations on values -/

namespace Value

/-- Only certain objects are in a value. -/
def In (held : ObjectRef → Prop) (v : Value) : Prop :=
  ∀ ref ∈ v.refs, held ref

theorem In.of_refs (none : v.refs = []) : v.In held := by
  intro ref mem
  rw [none] at mem
  cases mem

theorem In.mono {wider : ObjectRef → Prop} (h : v.In held) (sub : ∀ ref, held ref → wider ref) :
    v.In wider :=
  fun ref mem => sub ref (h ref mem)

theorem refsAll_eq_nil {items : List Value} (none : ∀ item ∈ items, item.refs = []) :
    refsAll items = [] := by
  rw [List.eq_nil_iff_forall_not_mem]
  intro ref mem
  obtain ⟨item, isItem, inside⟩ := mem_refsAll.1 mem
  rw [none item isItem] at inside
  cases inside

@[simp]
theorem refs_ofRaw (r : RawText) : (ofRaw r).refs = [] := by
  cases r <;> rfl

theorem refs_ofBytes (bs : List UInt8) : (ofBytes bs).refs = [] :=
  refs_ofRaw _

/-- The text of an attribute, if there is one. -/
theorem refs_attr (r? : Option RawText) : ((r?.map ofRaw).getD .null).refs = [] := by
  cases r? with
  | none => rfl
  | some r => exact refs_ofRaw r

theorem refs_unary {op : UnaryOp} (h : unary op v = .ok u) : u.refs = [] := by
  cases op <;> cases h <;> rfl

theorem refs_add (a b : Value) : (add a b).refs = [] := by
  unfold add
  split
  · rfl
  · unfold joined
    split
    · exact refs_ofBytes _
    · rfl

theorem refs_binary {op : BinaryOp} {a b : Value} (h : binary op a b = .ok u) : u.refs = [] := by
  cases op with
  | add =>
    cases h
    exact refs_add a b
  | _ => cases h <;> rfl

theorem refs_trimmed (trim : {α : Type} → (α → Bool) → List α → List α) (drop : Char → Bool)
    (v : Value) : (v.trimmed trim drop).refs = [] := by
  unfold trimmed
  split
  · exact refs_ofBytes _
  · rfl

theorem refs_textMethod {name : String} {args : List Value}
    (h : textMethod? name v args = some u) : u.refs = [] := by
  unfold textMethod? at h
  dsimp only at h
  split at h
  case h_10 =>
    cases h
    cases Text.indexOf (argument args 0).toBytes v.toBytes <;> rfl
  case h_14 =>
    cases h
    refine refsAll_eq_nil fun item mem => ?_
    obtain ⟨part, -, rfl⟩ := List.mem_map.1 mem
    exact refs_ofBytes part
  all_goals cases h
  all_goals first | rfl | exact refs_ofBytes _ | exact refs_trimmed _ _ v

theorem refs_arrayMethod {name : String} {items args : List Value}
    (h : arrayMethod? name items args = some u) : u.refs = [] := by
  unfold arrayMethod? at h
  dsimp only at h
  split at h
  case h_2 => split at h <;> cases h <;> rfl
  all_goals cases h
  · rfl
  · exact refs_ofBytes _

theorem refs_toFixed {x : Float} {places : Value} (h : toFixed x places = .ok u) : u.refs = [] := by
  unfold toFixed at h
  extract_lets d at h
  split at h
  · cases h
  · cases h
    rfl

end Value

open Value (In refsAll_eq_nil)

namespace World

theorem refs_elementMethod {e : ElementRef} {name : String} {args : List Value}
    (h : w.elementMethod e name args = .ok u) : u.refs = [] := by
  unfold elementMethod at h
  dsimp only at h
  split at h
  · cases h
    exact Value.refs_attr _
  · cases h
    rfl
  · split at h
    · rename_i found _
      cases h
      cases found <;> rfl
    · cases h
  · cases h

/-- No method returns an object. -/
theorem refs_callMethod {name : String} {args : List Value}
    (h : w.callMethod v name args = .ok u) : u.refs = [] := by
  unfold callMethod at h
  dsimp only at h
  split at h
  · cases h
  · cases h
  · cases found : Value.textMethod? name v args with
    | none => rw [found] at h; cases h
    | some result =>
      rw [found] at h
      cases h
      exact Value.refs_textMethod found
  · split at h
    · cases h
      rfl
    · cases h
  · rename_i items _
    cases found : Value.arrayMethod? name items args with
    | none => rw [found] at h; cases h
    | some result =>
      rw [found] at h
      cases h
      exact Value.refs_arrayMethod found
  · exact refs_elementMethod h
  · split at h
    · cases h
      refine refsAll_eq_nil fun item mem => ?_
      obtain ⟨e, -, rfl⟩ := List.mem_map.1 mem
      rfl
    · cases h
  · split at h
    · cases h
    · split at h
      · cases h
        rfl
      · split at h
        · split at h
          · rename_i fixed
            cases h
            exact Value.refs_toFixed fixed
          · cases h
        · cases h

/-! ## Members -/

/-- All objects of the page are among certain ones, and so is all that these refer to. -/
structure Covers (w : World) (held : ObjectRef → Prop) : Prop where
  page : ∀ ref, w.Root .page ref → held ref
  inner : ∀ a b, held a → w.store.heap.Points a b → held b

theorem covers_page (w : World) : w.Covers (w.Holds .page) :=
  ⟨fun ref isRoot => ⟨ref, isRoot, .refl⟩, fun _ _ held points => held.step points⟩

theorem covers_all (w : World) : w.Covers fun ref => ∃ h, w.Holds h ref :=
  ⟨fun ref isRoot => ⟨.page, ref, isRoot, .refl⟩, fun _ _ ⟨h, held⟩ points => ⟨h, held.step points⟩⟩

theorem property_in (cover : w.Covers held) {e : ElementRef} {name : String}
    (found : w.document.property? e name = some u) : u.In held := by
  unfold Document.property? at found
  rcases Option.or_eq_some_iff.1 found with wasSet | ⟨-, reflects⟩
  · obtain ⟨before, later, shape, -⟩ := List.lookup_eq_some_iff.1 wasSet
    have isSet : ((e.index, name), u) ∈ w.document.properties := by
      rw [shape]
      exact List.mem_append_right _ List.mem_cons_self
    exact fun ref mem => cover.page ref (.property isSet mem)
  · apply In.of_refs
    unfold Document.reflected? at reflects
    repeat' split at reflects
    all_goals cases reflects
    all_goals first | rfl | exact Value.refs_ofRaw _

theorem eventMember_in (cover : w.Covers held) {e : Event} (isEvent : e ∈ w.events) {name : String}
    (found : eventMember? e name = some u) : u.In held := by
  unfold eventMember? at found
  split at found
  · cases found
    exact .of_refs rfl
  · split at found
    · cases found
      exact fun ref mem => cover.page ref (.detail isEvent mem)
    · split at found
      · cases found
        cases e.origin <;> exact .of_refs rfl
      · cases found

theorem member_in (cover : w.Covers held) (inside : v.In held) {name : String}
    (found : w.member? v name = some u) : u.In held := by
  have lengthOnly {n : Nat} (found : (if name = "length" then some (Value.ofNat n) else none) = some u) :
      u.In held := by
    split at found <;> cases found
    exact .of_refs rfl
  cases v with
  | string s => exact lengthOnly found
  | bytes bs => exact lengthOnly found
  | array items => exact lengthOnly found
  | object owner =>
    intro ref mem
    exact cover.inner owner ref (inside owner List.mem_cons_self) ⟨name, u, found, mem⟩
  | element e => exact property_in cover found
  | event e =>
    obtain ⟨event, isThere, found⟩ := Option.bind_eq_some_iff.1 found
    exact eventMember_in cover (Array.mem_of_getElem? isThere) found
  | _ => cases found

theorem readMember_in (cover : w.Covers held) (inside : v.In held) (name : String) :
    ((w.member? v name).getD .undefined).In held := by
  cases found : w.member? v name with
  | none => exact .of_refs rfl
  | some result => exact member_in cover inside found

theorem getMember_in (cover : w.Covers held) (inside : v.In held) {name : String}
    (h : w.getMember v name = .ok u) : u.In held := by
  unfold getMember at h
  split at h
  · cases h
  · cases h
    exact readMember_in cover inside name

theorem refs_getIndex {s : String} {i : Value} (h : w.getIndex (.string s) i = .ok u) :
    u.refs = [] := by
  unfold getIndex at h
  dsimp only [Value.inCharacters] at h
  split at h
  · cases h
    rfl
  · cases h
    rfl

theorem getIndex_in (cover : w.Covers held) (inside : v.In held) {i : Value}
    (h : w.getIndex v i = .ok u) : u.In held := by
  cases v with
  | string s => exact .of_refs (refs_getIndex h)
  | bytes bs =>
    have asText : w.getIndex (.string (Text.ofBytes bs)) i = .ok u := h
    exact .of_refs (refs_getIndex asText)
  | array items =>
    cases h
    cases found : (i.position? items.length).bind fun n => items[n]? with
    | none => exact .of_refs rfl
    | some item =>
      obtain ⟨n, -, isItem⟩ := Option.bind_eq_some_iff.1 found
      intro ref mem
      exact inside ref (Value.mem_refsAll.2 ⟨item, List.mem_of_getElem? isItem, mem⟩)
  | null => cases h
  | undefined => cases h
  | _ =>
    cases h
    exact readMember_in cover inside _

end World

/-! ## Expressions -/

/-- Only certain objects are in what is named. -/
def Locals.In (held : ObjectRef → Prop) (locals : Locals) : Prop :=
  ∀ name v, locals.get name = .ok v → v.In held

theorem Locals.In.nil : Locals.In held [] := by
  intro name v found
  cases found

theorem Locals.In.cons (names : locals.In held) {given : String} {x : Local}
    (inside : ∀ v, x = .value v → v.In held) : Locals.In held ((given, x) :: locals) := by
  intro name v found
  by_cases same : given = name
  · subst same
    rw [Locals.get_cons_self] at found
    cases x with
    | value u =>
      cases found
      exact inside v rfl
    | unresolved selector whole => cases found
  · rw [Locals.get_cons_ne x locals same] at found
    exact names name v found

namespace Expr

theorem eval_word_in (names : locals.In held) {text : String}
    (h : (ofWord text).eval w f locals = .ok v) : v.In held := by
  unfold ofWord at h
  repeat' split at h
  · cases h
    cases f.event <;> exact .of_refs rfl
  · cases h
    cases f.element <;> exact .of_refs rfl
  · cases h
    exact .of_refs rfl
  · cases h
    exact .of_refs rfl
  · cases h
    exact .of_refs rfl
  · cases h
    exact .of_refs rfl
  · exact names text v h

theorem eval_member_in (cover : w.Covers held) {x : Expr} {name : String}
    (owner : ∀ u, x.eval w f locals = .ok u → u.In held)
    (h : (member x name).eval w f locals = .ok v) : v.In held := by
  rw [eval] at h
  obtain ⟨u, evaluated, found⟩ := except_bind_ok.1 h
  exact World.getMember_in cover (owner u evaluated) found

theorem eval_chain_in (cover : w.Covers held) (names : locals.In held) {owner : String}
    {keys : List String} (h : (chain owner keys).eval w f locals = .ok v) : v.In held := by
  induction keys using List.reverseRecOn generalizing v with
  | nil => exact eval_word_in names h
  | append_singleton keys key ih =>
    rw [chain_concat] at h
    exact eval_member_in cover (fun u => ih) h

theorem refs_evalTarget (h : evalTarget w f = .ok v) : v.refs = [] := by
  unfold evalTarget at h
  split at h
  · cases h
  · rename_i ref _
    cases h
    cases (w.event? ref).bind Event.origin <;> rfl

theorem refs_applied {result : Except OperatorError Value} (plain : ∀ u, result = .ok u → u.refs = [])
    (h : applied result = .ok v) : v.refs = [] := by
  cases result with
  | error cause => cases h
  | ok u =>
    cases h
    exact plain v rfl

/-- The objects in the value of an expression are among those that its names and data come from. -/
theorem Printable.eval_in {context : Int} {x : Expr} (h : Printable context x)
    (cover : w.Covers held) (names : locals.In held)
    (data : ∀ scope path u, w.getData f scope path = .ok u → u.In held)
    (evaluated : x.eval w f locals = .ok v) : v.In held := by
  induction h generalizing v with
  | number _ _ =>
    cases evaluated
    exact .of_refs rfl
  | string s =>
    cases evaluated
    exact .of_refs rfl
  | word _ => exact eval_word_in names evaluated
  | target => exact .of_refs (refs_evalTarget evaluated)
  | get path _ => exact data _ path v evaluated
  | member _ _ ih => exact eval_member_in cover (fun u => ih) evaluated
  | index _ _ ih _ =>
    rw [eval] at evaluated
    obtain ⟨u, first, evaluated⟩ := except_bind_ok.1 evaluated
    obtain ⟨i, -, found⟩ := except_bind_ok.1 evaluated
    exact World.getIndex_in cover (ih first) found
  | call _ _ _ _ _ =>
    rw [eval] at evaluated
    obtain ⟨u, -, evaluated⟩ := except_bind_ok.1 evaluated
    obtain ⟨args, -, called⟩ := except_bind_ok.1 evaluated
    exact .of_refs (World.refs_callMethod called)
  | unary _ _ _ =>
    rw [eval] at evaluated
    obtain ⟨u, -, result⟩ := except_bind_ok.1 evaluated
    exact .of_refs (refs_applied (fun _ => Value.refs_unary) result)
  | binary _ _ _ ihl ihr =>
    -- only `&&` and `||` pass an operand on, any other operator makes a new value
    rw [eval] at evaluated
    obtain ⟨a, left, evaluated⟩ := except_bind_ok.1 evaluated
    split at evaluated
    · split at evaluated
      · exact ihr evaluated
      · cases evaluated
        exact ihl left
    · split at evaluated
      · split at evaluated
        · cases evaluated
          exact ihl left
        · exact ihr evaluated
      · obtain ⟨b, -, result⟩ := except_bind_ok.1 evaluated
        exact .of_refs (refs_applied (fun _ => Value.refs_binary) result)
  | cond _ _ _ _ iht ihe =>
    rw [eval] at evaluated
    obtain ⟨c, -, evaluated⟩ := except_bind_ok.1 evaluated
    split at evaluated
    · exact iht evaluated
    · exact ihe evaluated
  | paren _ ih =>
    rw [eval] at evaluated
    exact ih evaluated

end Expr

/-! ## Setup statements -/

namespace Stmt

theorem IsSetup.named_in {st : Stmt} (h : IsSetup st) (cover : w.Covers held)
    (names : locals.In held) (named : st.named w f locals = .ok next) : next.In held := by
  cases h with
  | lookup n selector whole =>
    obtain ⟨found, -, rfl⟩ := named_lookup.1 named
    refine names.cons fun v same => ?_
    cases found with
    | none => cases same
    | some e =>
      cases same
      exact .of_refs rfl
  | attr n name _ =>
    obtain ⟨v, evaluated, rfl⟩ := named_declare.1 named
    refine names.cons fun u same => ?_
    cases same
    rw [Expr.eval] at evaluated
    obtain ⟨owner, -, evaluated⟩ := except_bind_ok.1 evaluated
    obtain ⟨e, -, read⟩ := except_bind_ok.1 evaluated
    cases read
    exact .of_refs (Value.refs_attr _)
  | prop n _ _ =>
    obtain ⟨v, evaluated, rfl⟩ := named_declare.1 named
    refine names.cons fun u same => ?_
    cases same
    exact Expr.eval_chain_in cover names evaluated

/-- What compiled setup statements name has only objects of the page in it. -/
theorem namedAll_in {setup : List Stmt} (areSetup : ∀ st ∈ setup, st.IsSetup)
    (cover : w.Covers held) (names : locals.In held)
    (named : namedAll w f locals setup = .ok last) : last.In held := by
  induction setup generalizing locals with
  | nil =>
    cases named
    exact names
  | cons st rest ih =>
    rw [namedAll] at named
    cases step : st.named w f locals with
    | error e =>
      rw [step] at named
      cases named
    | ok next =>
      rw [step] at named
      have first := (areSetup st List.mem_cons_self).named_in cover names step
      exact ih (fun st mem => areSetup st (List.mem_cons_of_mem _ mem)) first named

end Stmt

/-! ## Data -/

theorem World.getData_in {scope : Scope} {path : String} (h : w.getData f scope path = .ok v) :
    v.In fun ref => ∃ holder, w.Holds holder ref := by
  unfold getData at h
  split at h
  · cases h
  · unfold Store.fetch at h
    cases canceled : f.canceled with
    | true =>
      rw [canceled] at h
      cases h
    | false =>
      rw [canceled] at h
      cases h
      intro ref mem
      unfold Store.read at mem
      split at mem
      · cases mem
      · split at mem
        · rename_i root found
          obtain ⟨first, inside, path⟩ := Store.follow_reaches mem
          obtain rfl : first = root := by simpa [Value.refs] using inside
          exact ⟨_, first, .context found, path⟩
        · cases mem

end PageBinding
