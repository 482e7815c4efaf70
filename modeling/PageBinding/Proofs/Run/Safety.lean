import PageBinding.Proofs.Reading.Operators
import PageBinding.Proofs.Run.InPlace

/-!
A compiled binding does not go wrong by itself. With a data store and a document, every name that it
uses was given before, every operator that it applies has a meaning, and its assignment has a value.
What is left are errors about the data: a member of nothing, a value that is no element, an element
that was looked up and not found.

The last of these is an error only where the element is used. A run that succeeds has found every
element that it looked up.
-/
namespace PageBinding

/-! ## Errors -/

/-- The errors of programs that are not put together well: a name that nothing was given to, an
assignment without a value, an operator without a meaning. -/
def RunError.isInternal : RunError → Bool
  | notDefined _ | unfilled | operator _ => true
  | _ => false

/-- The errors about data. -/
def RunError.isPlain : RunError → Bool
  | noElement _ _ => false
  | e => !e.isInternal

/-- The errors that a run with these setup statements may end with. -/
inductive Excused (w : World) (f : Frame) (setup : List Stmt) : RunError → Prop
  | plain {e : RunError} : e.isPlain = true → Excused w f setup e
  | missing {name : String} {selector : RawText} {whole : Bool} : .lookup name selector whole ∈ setup →
      w.find f selector whole = .ok none → Excused w f setup (.noElement selector whole)

/-- A result that is no error, or an error that a run may end with. -/
def Safe {α : Type} (w : World) (f : Frame) (setup : List Stmt) (r : Except RunError α) : Prop :=
  ∀ e, r = .error e → Excused w f setup e

variable {w : World} {f : Frame} {setup : List Stmt} {locals last : Locals} {names : List String}
  {α β : Type}

theorem Excused.notInternal {e : RunError} (h : Excused w f setup e) : e.isInternal = false := by
  cases h with
  | plain isPlain => cases e <;> first | rfl | cases isPlain
  | missing => rfl

theorem Excused.mono {more : List Stmt} {e : RunError} (h : Excused w f setup e)
    (sub : ∀ st ∈ setup, st ∈ more) : Excused w f more e := by
  cases h with
  | plain isPlain => exact .plain isPlain
  | missing mem unfound => exact .missing (sub _ mem) unfound

namespace Safe

theorem ok (a : α) : Safe w f setup (.ok a) := nofun

theorem plain {e : RunError} (isPlain : e.isPlain = true) :
    Safe w f setup (.error e : Except RunError α) := by
  rintro _ ⟨⟩
  exact .plain isPlain

theorem bind {r : Except RunError α} {next : α → Except RunError β} (h : Safe w f setup r)
    (h' : ∀ a, r = .ok a → Safe w f setup (next a)) : Safe w f setup (r >>= next) := by
  cases r with
  | error e =>
      rintro _ ⟨⟩
      exact h e rfl
  | ok a => exact h' a rfl

theorem mono {more : List Stmt} {r : Except RunError α} (h : Safe w f setup r)
    (sub : ∀ st ∈ setup, st ∈ more) : Safe w f more r :=
  fun e failed => (h e failed).mono sub

/-! ## Operations -/

theorem getMember (v : Value) (name : String) : Safe w f setup (w.getMember v name) := by
  unfold World.getMember
  split
  · exact plain rfl
  · exact ok _

theorem getIndex (v i : Value) : Safe w f setup (w.getIndex v i) := by
  unfold World.getIndex
  split
  · exact ok _
  · split
    · exact ok _
    · exact ok _
  · split
    · exact plain rfl
    · exact ok _

theorem elementMethod (e : ElementRef) (name : String) (args : List Value) :
    Safe w f setup (w.elementMethod e name args) := by
  unfold World.elementMethod
  dsimp only
  split
  · exact ok _
  · exact ok _
  · split
    · exact ok _
    · exact plain rfl
  · exact plain rfl

theorem getD_plain {found : Option Value} {e : RunError} (isPlain : e.isPlain = true) :
    Safe w f setup ((found.map .ok).getD (.error e)) := by
  cases found with
  | some v => exact ok v
  | none => exact plain isPlain

theorem callMethod (v : Value) (name : String) (args : List Value) :
    Safe w f setup (w.callMethod v name args) := by
  unfold World.callMethod
  dsimp only
  split
  · exact plain rfl
  · exact plain rfl
  · exact getD_plain rfl
  · split
    · exact ok _
    · exact plain rfl
  · exact getD_plain rfl
  · exact elementMethod _ name args
  · split
    · exact ok _
    · exact plain rfl
  · repeat' split
    all_goals first | exact ok _ | exact plain rfl

theorem getData (hasData : f.hasData = true) (scope : Scope) (path : String) :
    Safe w f setup (w.getData f scope path) := by
  unfold World.getData
  rw [hasData, if_neg (by simp)]
  split
  · exact ok _
  · exact plain rfl

theorem asElement (v : Value) (method : String) : Safe w f setup (v.asElement method) := by
  unfold Value.asElement
  split
  · exact ok _
  · split
    · exact plain rfl
    · exact plain rfl

theorem evalTarget : Safe w f setup (Expr.evalTarget w f) := by
  unfold Expr.evalTarget
  split
  · exact plain rfl
  · exact ok _

theorem find (hasDocument : f.hasDocument = true) (selector : RawText) (whole : Bool) :
    Safe w f setup (w.find f selector whole) := by
  unfold World.find
  simp only [hasDocument, ↓reduceIte]
  split
  · rename_i e failed
    repeat' split at failed
    all_goals cases failed
    exact plain rfl
  · exact plain rfl
  · exact ok _

theorem unary {op : UnaryOp} {x : Expr} (known : (Expr.unary op x).isKnown = true) (v : Value) :
    Safe w f setup (Expr.applied (Value.unary op v)) := by
  cases op with
  | unknown spelling => cases known
  | _ => exact ok _

theorem binary {op : BinaryOp} {l r : Expr} (known : (Expr.binary op l r).isKnown = true)
    (notAnd : op ≠ .and) (notOr : op ≠ .or) (a b : Value) :
    Safe w f setup (Expr.applied (Value.binary op a b)) := by
  cases op with
  | unknown spelling => cases known
  | and => exact absurd rfl notAnd
  | or => exact absurd rfl notOr
  | _ => exact ok _

end Safe

/-! ## Names -/

/-- The names in a run are those that the setup statements give, and an element that is missing was
looked up. -/
structure Names (w : World) (f : Frame) (setup : List Stmt) (locals : Locals) : Prop where
  given : ∀ name ∈ namesOf setup, ∃ x, (name, x) ∈ locals
  missing : ∀ {name selector whole}, (name, .unresolved selector whole) ∈ locals →
    .lookup name selector whole ∈ setup ∧ w.find f selector whole = .ok none

namespace Names

theorem nil : Names w f [] [] := ⟨nofun, nofun⟩

/-- A statement that gives a name to a value or to what it looked up. -/
theorem snoc {st : Stmt} {name : String} {x : Local} (h : Names w f setup locals)
    (isName : st.name? = some name)
    (isLookup : ∀ selector whole, x = .unresolved selector whole →
      st = .lookup name selector whole ∧ w.find f selector whole = .ok none) :
    Names w f (setup ++ [st]) ((name, x) :: locals) := by
  constructor
  · intro other mem
    rw [namesOf_append] at mem
    obtain mem | mem := List.mem_append.1 mem
    · obtain ⟨y, found⟩ := h.given other mem
      exact ⟨y, List.mem_cons_of_mem _ found⟩
    · obtain ⟨_, isLast, isOther⟩ := List.mem_filterMap.1 mem
      cases List.mem_singleton.1 isLast
      cases isName.symm.trans isOther
      exact ⟨x, List.mem_cons_self⟩
  · intro other selector whole mem
    obtain same | mem := List.mem_cons.1 mem
    · cases same
      obtain ⟨rfl, unfound⟩ := isLookup selector whole rfl
      exact ⟨List.mem_append_right _ List.mem_cons_self, unfound⟩
    · obtain ⟨before, unfound⟩ := h.missing mem
      exact ⟨List.mem_append_left _ before, unfound⟩

theorem step {st : Stmt} (h : Names w f setup locals) (isName : st.name?.isSome = true)
    (named : st.named w f locals = .ok last) : Names w f (setup ++ [st]) last := by
  cases st with
  | lookup name selector whole =>
      obtain ⟨found, looked, rfl⟩ := Stmt.named_lookup.1 named
      refine h.snoc rfl fun selector' whole' isMissing => ?_
      cases found with
      | some e => cases isMissing
      | none =>
          cases isMissing
          exact ⟨rfl, looked⟩
  | declare name value =>
      obtain ⟨v, -, rfl⟩ := Stmt.named_declare.1 named
      exact h.snoc rfl nofun
  | setProperty scope path value => cases isName
  | setAttr x name value => cases isName
  | setMember x name value => cases isName

theorem get {name : String} (h : Names w f setup locals) (mem : name ∈ namesOf setup) :
    Safe w f setup (locals.get name) := by
  unfold Locals.get
  split
  · exact .ok _
  · rename_i selector whole found
    rintro _ ⟨⟩
    obtain ⟨before, after, rfl, -⟩ := List.lookup_eq_some_iff.1 found
    obtain ⟨looked, unfound⟩ := h.missing (List.mem_append_right before List.mem_cons_self)
    exact .missing looked unfound
  · rename_i absent
    obtain ⟨x, found⟩ := h.given name mem
    have differs := List.lookup_eq_none_iff.1 absent (name, x) found
    simp at differs

end Names

/-! ## Evaluation -/

namespace Expr

mutual

/-- An expression that uses given names and known operators fails only because of the data. -/
theorem eval_safe (hasData : f.hasData = true) (named : Names w f setup locals) :
    (x : Expr) → Uses (namesOf setup) x.parts → Known x.parts → Safe w f setup (x.eval w f locals)
  | lit _ _, _, _ => by
      rw [eval]
      exact .ok _
  | event, _, _ => by
      rw [eval]
      exact .ok _
  | target, _, _ => by
      rw [eval]
      exact .evalTarget
  | element, _, _ => by
      rw [eval]
      exact .ok _
  | var name, uses, _ => by
      rw [eval]
      exact named.get (uses.1 name (by simp [parts]))
  | get scope path, _, _ => by
      rw [eval]
      exact .getData hasData scope path
  | attr x name, uses, known => by
      simp only [parts, uses_cons, known_cons] at uses known
      rw [eval]
      refine (eval_safe hasData named x uses.2.2 known.2).bind fun v _ => ?_
      exact (Safe.asElement v _).bind fun e _ => .ok _
  | member x name, uses, known => by
      simp only [parts, uses_cons, known_cons] at uses known
      rw [eval]
      exact (eval_safe hasData named x uses.2.2 known.2).bind fun v _ => .getMember v name
  | index x i, uses, known => by
      simp only [parts, uses_cons, uses_append, known_cons, known_append] at uses known
      rw [eval]
      refine (eval_safe hasData named x uses.2.2.1 known.2.1).bind fun v _ => ?_
      exact (eval_safe hasData named i uses.2.2.2 known.2.2).bind fun i _ => .getIndex v i
  | call x method args, uses, known => by
      simp only [parts, uses_cons, uses_append, known_cons, known_append] at uses known
      rw [eval]
      refine (eval_safe hasData named x uses.2.2.1 known.2.1).bind fun v _ => ?_
      exact (evalAll_safe hasData named args uses.2.2.2 known.2.2).bind fun vs _ =>
        .callMethod v method vs
  | unary op x, uses, known => by
      simp only [parts, uses_cons, known_cons] at uses known
      rw [eval]
      exact (eval_safe hasData named x uses.2.2 known.2).bind fun v _ => .unary known.1 v
  | binary op l r, uses, known => by
      simp only [parts, uses_cons, uses_append, known_cons, known_append] at uses known
      have second := eval_safe hasData named r uses.2.2.2 known.2.2
      rw [eval]
      refine (eval_safe hasData named l uses.2.2.1 known.2.1).bind fun a _ => ?_
      split
      · split
        · exact second
        · exact .ok _
      · split
        · split
          · exact .ok _
          · exact second
        · rename_i notAnd notOr
          exact second.bind fun b _ => .binary known.1 notAnd notOr a b
  | cond c t e, uses, known => by
      simp only [parts, uses_cons, uses_append, known_cons, known_append] at uses known
      rw [eval]
      refine (eval_safe hasData named c uses.2.2.1 known.2.1).bind fun v _ => ?_
      split
      · exact eval_safe hasData named t uses.2.2.2.1 known.2.2.1
      · exact eval_safe hasData named e uses.2.2.2.2 known.2.2.2
  | paren x, uses, known => by
      simp only [parts, uses_cons, known_cons] at uses known
      rw [eval]
      exact eval_safe hasData named x uses.2.2 known.2
  | placeholder, uses, _ => absurd (by simp [parts]) uses.2

theorem evalAll_safe (hasData : f.hasData = true) (named : Names w f setup locals) :
    (xs : List Expr) → Uses (namesOf setup) (partsAll xs) → Known (partsAll xs) →
    Safe w f setup (evalAll w f locals xs)
  | [], _, _ => by
      rw [evalAll]
      exact .ok _
  | x :: xs, uses, known => by
      simp only [partsAll, uses_append, known_append] at uses known
      rw [evalAll]
      refine (eval_safe hasData named x uses.1 known.1).bind fun v _ => ?_
      exact (evalAll_safe hasData named xs uses.2 known.2).bind fun vs _ => .ok _

end

end Expr

/-! ## Setup -/

theorem Stmt.named_safe {st : Stmt} (hasData : f.hasData = true) (hasDocument : f.hasDocument = true)
    (given : Names w f setup locals) (uses : Expr.Uses (namesOf setup) st.parts)
    (known : Expr.Known st.parts) : Safe w f setup (st.named w f locals) := by
  cases st with
  | lookup name selector whole =>
      rw [named]
      cases looked : w.find f selector whole with
      | error e =>
          rintro _ ⟨⟩
          exact Safe.find hasDocument selector whole e looked
      | ok element? => cases element? <;> exact .ok _
  | declare name value =>
      rw [named]
      cases evaluated : value.eval w f locals with
      | error e =>
          rintro _ ⟨⟩
          exact value.eval_safe hasData given uses known e evaluated
      | ok v => exact .ok _
  | setProperty scope path value => exact .ok _
  | setAttr x name value => exact .ok _
  | setMember x name value => exact .ok _

/-- Setup statements whose names are given in order fail only because of the data. -/
theorem Scoped.named_safe (hasData : f.hasData = true) (hasDocument : f.hasDocument = true)
    {start : Nat} (inOrder : Scoped start setup) (known : ∀ st ∈ setup, Expr.Known st.parts) :
    (∀ last, Stmt.namedAll w f [] setup = .ok last → Names w f setup last) ∧
      Safe w f setup (Stmt.namedAll w f [] setup) := by
  induction inOrder with
  | nil =>
      refine ⟨fun last named => ?_, .ok _⟩
      cases named
      exact .nil
  | @snoc before st earlier numbered uses ih =>
      obtain ⟨knownBefore, knownLast⟩ := List.forall_mem_append.1 known
      obtain ⟨names, safe⟩ := ih knownBefore
      have isName : st.name?.isSome = true := by
        obtain ⟨stem, -, name⟩ := numbered.name
        rw [name]
        rfl
      have sub : ∀ st' ∈ before, st' ∈ before ++ [st] := fun _ => List.mem_append_left _
      constructor
      · intro last named
        obtain ⟨next, begun, ended⟩ := Stmt.namedAll_append.1 named
        rw [Stmt.namedAll_singleton] at ended
        exact (names next begun).step isName ended
      · rw [Stmt.namedAll_bind]
        refine (safe.mono sub).bind fun next begun => ?_
        rw [Stmt.namedAll_singleton]
        have last := knownLast st List.mem_cons_self
        exact (Stmt.named_safe hasData hasDocument (names next begun) uses last).mono sub

/-- The name of a lookup stands for the element that was found, and cannot be used if there is none. -/
theorem get_of_lookup {name : String} {selector : RawText} {whole : Bool} (nodup : (namesOf setup).Nodup)
    (mem : .lookup name selector whole ∈ setup)
    (named : Stmt.namedAll w f locals setup = .ok last) :
    ∃ found, w.find f selector whole = .ok found ∧
      last.get name = found.elim (.error (.noElement selector whole)) fun e => .ok (.element e) := by
  obtain ⟨before, after, rfl⟩ := List.append_of_mem mem
  have apart : name ∉ namesOf after := by
    rw [namesOf_append] at nodup
    exact (List.nodup_cons.1 (List.nodup_append.1 nodup).2.1).1
  rw [List.append_cons, Stmt.namedAll_append] at named
  obtain ⟨middle, begun, ended⟩ := named
  obtain ⟨next, -, looked⟩ := Stmt.namedAll_append.1 begun
  rw [Stmt.namedAll_singleton, Stmt.named_lookup] at looked
  obtain ⟨found, isFound, rfl⟩ := looked
  refine ⟨found, isFound, ?_⟩
  rw [Stmt.namedAll_get ended apart, Locals.get_cons_self]
  cases found <;> rfl

/-! ## Assignments -/

/-- A step of a run that succeeds, or fails with an error that the run may end with. -/
def SafeFrom (w : World) (f : Frame) (setup : List Stmt) (s : Running) (m : Run α) : Prop :=
  ∀ e t, m s = .error (.failed e) t → Excused w f setup e

namespace SafeFrom

variable {s : Running} {next : Value → Run α}

theorem eval {x : Expr} (h : Safe w f setup (x.eval s.world f s.locals))
    (h' : ∀ v, SafeFrom w f setup s (next v)) : SafeFrom w f setup s (Run.eval f x >>= next) := by
  intro e t failed
  cases evaluated : x.eval s.world f s.locals with
  | error e' =>
      rw [bind_of_error (eval_of_error evaluated)] at failed
      cases failed
      exact h e evaluated
  | ok v =>
      rw [bind_of_ok (eval_of_ok evaluated)] at failed
      exact h' v e t failed

theorem lift {r : Except RunError β} {next : β → Run α} (h : Safe w f setup r)
    (h' : ∀ a, SafeFrom w f setup s (next a)) : SafeFrom w f setup s (Run.lift r >>= next) := by
  cases r with
  | error e =>
      rintro _ _ ⟨⟩
      exact h e rfl
  | ok a => exact h' a

theorem setData (scope : Scope) (path : String) (v : Value) :
    SafeFrom w f setup s (Run.setData f scope path v) := by
  intro e t failed
  unfold Run.setData at failed
  split at failed
  · cases failed
  · cases failed
    exact .plain rfl

theorem setMember (target : Value) (name : String) (v : Value) :
    SafeFrom w f setup s (Run.setMember target name v) := by
  intro e t failed
  unfold Run.setMember World.setMember at failed
  split at failed
  · cases failed
  · rename_i halt refused
    cases failed
    split at refused
    case h_3 => cases refused
    case h_4 =>
      split at refused
      · cases refused
        exact .plain rfl
      · -- what is written into an element fails in no way that is reported
        cases written : s.world.setProperty _ name v with
        | ok world =>
            rw [written] at refused
            cases refused
        | error why =>
            rw [written] at refused
            cases refused
    all_goals
      cases refused
      exact .plain rfl

end SafeFrom

theorem exec_safe {template assign : Stmt} {value : Expr} (hasData : f.hasData = true)
    (given : Names w f setup locals) (waiting : Binding.IsTemplate (namesOf setup) template)
    (filled : template.fill? value = some assign) (uses : Expr.Uses (namesOf setup) value.parts)
    (known : Expr.Known template.parts) (known' : Expr.Known value.parts) :
    SafeFrom w f setup ⟨w, locals⟩ (assign.exec f) := by
  have evaluates : Safe w f setup (value.eval w f locals) := value.eval_safe hasData given uses known'
  cases waiting with
  | property scope path =>
      cases filled
      rw [Stmt.exec]
      refine .eval evaluates fun v => ?_
      rw [hasData]
      exact .setData scope path v
  | @attr x name uses =>
      cases filled
      rw [Stmt.parts, Expr.known_append] at known
      rw [Stmt.exec]
      refine .eval (x.eval_safe hasData given uses known.1) fun target => ?_
      refine .lift (.asElement target _) fun e => ?_
      refine .eval evaluates fun v e t failed => ?_
      cases failed
  | @member x name uses =>
      cases filled
      rw [Stmt.parts, Expr.known_append] at known
      rw [Stmt.exec]
      refine .eval (x.eval_safe hasData given uses known.1) fun target => ?_
      refine .eval evaluates fun v => ?_
      exact .setMember target name v

/-! ## Programs -/

/-- A program whose names are given in order, whose operators have a meaning, and whose assignment has
a value. -/
structure Program.Checked (p : Program) (template : Stmt) (value : Expr) : Prop where
  inOrder : Scoped 0 p.setup
  known : ∀ st ∈ p.setup, Expr.Known st.parts
  waiting : Binding.IsTemplate (namesOf p.setup) template
  knownTarget : Expr.Known template.parts
  uses : Expr.Uses (namesOf p.setup) value.parts
  knownValue : Expr.Known value.parts
  filled : p.assign = template.fill? value
  isSome : p.assign.isSome = true

namespace Program.Checked

variable {p : Program} {template : Stmt} {value : Expr}

/-- A checked program fails only because of the data. -/
theorem run_excused {e : RunError} {after : World} (h : p.Checked template value)
    (hasData : f.hasData = true) (hasDocument : f.hasDocument = true)
    (failed : p.run f w = (.error (.failed e), after)) : Excused w f p.setup e := by
  obtain ⟨names, safe⟩ := h.inOrder.named_safe hasData hasDocument h.known (w := w)
  obtain ⟨assign, isAssign⟩ := Option.isSome_iff_exists.1 h.isSome
  have ends : SafeFrom w f p.setup ⟨w, []⟩ (p.exec f) := by
    rw [exec_of_assign isAssign]
    intro e' t failed
    obtain ⟨locals, named, ran⟩ | ⟨e'', last, unnamed, ran⟩ :=
      execAll_named h.inOrder.areNames (w := w) (f := f) []
    · rw [bind_of_ok ran] at failed
      exact exec_safe hasData (names locals named) h.waiting (h.filled.symm.trans isAssign) h.uses
        h.knownTarget h.knownValue e' t failed
    · rw [bind_of_error ran] at failed
      cases failed
      exact safe e' unnamed
  unfold run EStateM.run at failed
  split at failed
  · cases failed
  · rename_i halt t ran
    cases failed
    exact ends e t ran

/-- The use of a name whose lookup found nothing is an error, wherever in a run it is used. -/
theorem eval_unfound {done later : List Stmt} {s : Running} {name : String} {selector : RawText}
    {whole : Bool} (h : p.Checked template value) (shape : p.setup = done ++ later)
    (ran : execAll f done ⟨w, []⟩ = .ok () s) (mem : .lookup name selector whole ∈ done)
    (unfound : w.find f selector whole = .ok none) :
    Run.eval f (.var name) s = .error (.failed (.noElement selector whole)) s := by
  have nodup := h.inOrder.nodup
  have areNames := h.inOrder.areNames
  rw [shape, namesOf_append] at nodup
  rw [shape] at areNames
  obtain ⟨last, named, ran'⟩ | ⟨e, last, -, ran'⟩ :=
    execAll_named (List.forall_mem_append.1 areNames).1 (w := w) (f := f) []
  · cases ran.symm.trans ran'
    obtain ⟨found, isFound, has⟩ := get_of_lookup (List.nodup_append.1 nodup).1 mem named
    cases unfound.symm.trans isFound
    exact eval_of_error has
  · cases ran.symm.trans ran'

theorem all_values {locals : Locals} (h : p.Checked template value) (hasData : f.hasData = true)
    (hasDocument : f.hasDocument = true) (named : Stmt.namedAll w f [] p.setup = .ok locals)
    (found : AllFound w f p.setup) : ∀ x ∈ locals, ∃ v, x.2 = .value v := by
  have names := (h.inOrder.named_safe hasData hasDocument h.known).1 locals named
  rintro ⟨name, x⟩ mem
  cases x with
  | value v => exact ⟨v, rfl⟩
  | unresolved selector whole =>
      obtain ⟨looked, unfound⟩ := names.missing mem
      obtain ⟨e, isFound⟩ := found name selector whole looked
      cases unfound.symm.trans isFound

end Program.Checked

namespace Binding

variable {global context : Int} {text : RawText} {p : Program}

theorem IsTemplate.mono {more : List String} {template : Stmt} (h : IsTemplate names template)
    (sub : ∀ name ∈ names, name ∈ more) : IsTemplate more template := by
  cases h with
  | property scope path => exact .property scope path
  | attr name uses => exact .attr name (uses.mono sub)
  | member name uses => exact .member name (uses.mono sub)

theorem get_of_setMemberPath {name path : String} {v : Value} {write : Write}
    (aims : Aims w f locals v (setMemberPath (.var name) path .placeholder) write) :
    ∃ owner, locals.get name = .ok owner := by
  unfold setMemberPath memberPath at aims
  obtain empty | ⟨keys, key, shape⟩ := List.eq_nil_or_concat (Store.keys path)
  · rw [empty] at aims
    cases aims with
    | member _ evaluated => exact ⟨_, evaluated⟩
  · rw [shape, List.concat_eq_append, List.foldl_append] at aims
    cases aims with
    | member _ evaluated =>
        rw [eval_members, except_bind_ok] at evaluated
        obtain ⟨owner, has, -⟩ := evaluated
        exact ⟨owner, has⟩

/-- An assignment that was made used the element that its target looked up. -/
theorem IsTarget.allFound {s : Setting} {ts : List Token} {template : Stmt} {first : List Stmt}
    {v : Value} {write : Write} (h : IsTarget s [] ts template first)
    (nodup : (namesOf setup).Nodup) (sub : ∀ st ∈ first, st ∈ setup)
    (named : Stmt.namedAll w f [] setup = .ok locals) (aims : Aims w f locals v template write) :
    AllFound w f first := by
  have used {name : String} {selector : RawText} {whole : Bool} {owner : Value}
      (mem : .lookup name selector whole ∈ first) (has : locals.get name = .ok owner) :
      ∃ e, w.find f selector whole = .ok (some e) := by
    obtain ⟨found, isFound, gives⟩ := get_of_lookup nodup (sub _ mem) named
    cases found with
    | some e => exact ⟨e, isFound⟩
    | none => cases has.symm.trans gives
  intro name selector whole mem
  cases h with
  | @attr _ _ found side read =>
      obtain ⟨locator, path⟩ := found
      cases locator with
      | self => cases mem
      | find =>
          cases List.mem_singleton.1 mem
          cases aims with
          | attr _ evaluated => exact used mem evaluated
  | @prop _ _ found side read =>
      obtain ⟨locator, path⟩ := found
      cases locator with
      | self => cases mem
      | find =>
          cases List.mem_singleton.1 mem
          obtain ⟨owner, has⟩ := get_of_setMemberPath aims
          exact used mem has
  | global => cases mem
  | data => cases mem

/-- A value whose accessors were all read had all their elements found. -/
theorem IsExpr.allFound {s : Setting} {a b : List Stmt} {ts : List Token} {x : Expr}
    (h : IsExpr OptionalPath s a ts x b) (named : Stmt.namedAll w f [] b = .ok locals)
    (before : AllFound w f a) : AllFound w f b := by
  obtain ⟨d, spelt⟩ := h.direct
  obtain ⟨added, rfl, read⟩ : Hoists w f a b [x] [d] := hoists_of_spelt spelt h
  obtain ⟨middle, -, ended⟩ := Stmt.namedAll_append.1 named
  exact allFound_append before (read.found ended)

theorem checked_of_sides {a : Assignment} {template : Stmt} {first : List Stmt} {value : Expr}
    (target : IsTarget (targetSetting text global context a) [] a.target template first)
    (source : IsExpr OptionalPath (sourceSetting text global context a) first a.source value p.setup)
    (filled : p.assign = template.fill? value) (isSome : p.assign.isSome = true) :
    p.Checked template value := by
  obtain ⟨_, shape, inOrder, waiting⟩ := target.adds
  rw [List.nil_append] at shape
  subst shape
  obtain ⟨later, shape, inOrder', uses⟩ := source.adds
  obtain ⟨knownFirst, knownTarget⟩ := target.known nofun
  obtain ⟨known, knownValue⟩ := source.known knownFirst
  have allNames : namesOf p.setup = namesOf first ++ namesOf later := by
    rw [shape, namesOf_append]
  refine ⟨?_, known, ?_, knownTarget, ?_, knownValue, filled, isSome⟩
  · rw [shape]
    refine inOrder.append ?_
    rwa [List.length_nil, Nat.zero_add]
  · rw [allNames]
    exact waiting.mono fun name => List.mem_append_left _
  · rw [allNames]
    exact uses.mono fun name => List.mem_append_right _

/-- A compiled binding that has a data store and a document does not go wrong by itself.

* An error is never internal, and an element is reported missing only if the program looked it up and
  did not find it.
* Using the name of a lookup that found nothing is an error that says what was looked up, and where.
* If the run succeeds, then each lookup found an element, so that all names stand for values when the
  value of the assignment is worked out and written. -/
theorem run_never_internal (h : (build global context text).result = .ok p)
    (hasData : f.hasData = true) (hasDocument : f.hasDocument = true) (w : World) :
    (∀ e after, p.run f w = (.error (.failed e), after) → e.isInternal = false ∧
      ∀ selector whole, e = .noElement selector whole →
        (∃ name, .lookup name selector whole ∈ p.setup) ∧ w.find f selector whole = .ok none) ∧
    (∀ done later s, p.setup = done ++ later → Program.execAll f done ⟨w, []⟩ = .ok () s →
      ∀ name selector whole, .lookup name selector whole ∈ done →
        w.find f selector whole = .ok none →
        Run.eval f (.var name) s = .error (.failed (.noElement selector whole)) s) ∧
    ∀ after, p.run f w = (.ok (), after) → AllFound w f p.setup ∧
      ∃ template value locals v write, p.assign = template.fill? value ∧
        Stmt.namedAll w f [] p.setup = .ok locals ∧ (∀ x ∈ locals, ∃ v, x.2 = .value v) ∧
        value.eval w f locals = .ok v ∧ Aims w f locals v template write ∧
        write.result? w = some after := by
  obtain ⟨a, template, first, value, -, target, source, filled, isSome⟩ := build_iff.1 h
  have checked := checked_of_sides target source filled isSome
  refine ⟨fun e after failed => ?_, fun done later s shape ran name selector whole mem unfound =>
    checked.eval_unfound shape ran mem unfound, fun after ran => ?_⟩
  · have excused := checked.run_excused hasData hasDocument failed
    refine ⟨excused.notInternal, fun selector whole isMissing => ?_⟩
    subst isMissing
    cases excused with
    | plain isPlain => cases isPlain
    | missing mem unfound => exact ⟨⟨_, mem⟩, unfound⟩
  · have runs := run_cases checked.inOrder.areNames checked.waiting filled isSome f w
    rw [ran] at runs
    cases runs with
    | @wrote locals v write _ named evaluated aims written =>
      obtain ⟨later, shape, -⟩ := source.adds
      have sub : ∀ st ∈ first, st ∈ p.setup := fun st mem => shape ▸ List.mem_append_left _ mem
      have found : AllFound w f p.setup :=
        source.allFound named (target.allFound checked.inOrder.nodup sub named aims)
      exact ⟨found, template, value, locals, v, write, filled, named,
        checked.all_values hasData hasDocument named found, evaluated, aims, written⟩

/-- A page with a paragraph in the bound element, and nothing else in it. -/
def paragraphPage : World :=
  ⟨.empty, .ofNodes [.node ⟨1, .element, "div", "", [], ""⟩
    [.node ⟨2, .element, "p", "", [], ""⟩ []]] 3, #[], fun _ => 0⟩

/-- On a page without a `q`, the sample program finds its target and reports that there is no `q`. On
the filled page it finds both. -/
theorem sampleProgram_never_internal :
    (∃ e after, sampleProgram.run inFirst paragraphPage = (.error (.failed e), after) ∧
      e = .noElement "q" false ∧ e.isInternal = false ∧
      paragraphPage.find inFirst "q" false = .ok none) ∧
    AllFound filledPage inFirst sampleProgram.setup := by
  constructor
  · obtain ⟨fails, -, -⟩ := run_never_internal (f := inFirst) build_sampleBinding rfl rfl paragraphPage
    obtain ⟨notInternal, unfound⟩ := fails (.noElement "q" false) _ rfl
    exact ⟨_, _, rfl, rfl, notInternal, (unfound "q" false rfl).2⟩
  · obtain ⟨-, -, succeeds⟩ := run_never_internal (f := inFirst) build_sampleBinding rfl rfl filledPage
    exact (succeeds _ rfl).1

end Binding

end PageBinding
