import PageBinding.Proofs.Run.Hoisting

/-!
Running a binding with the accessors of its value read in place, and how that compares with running
the compiled program, which looks up and reads all of them first.

A program that succeeds has the result of the run in place, and leaves the same world. It may fail
where the run in place would not: an accessor in a branch that is not taken is read all the same. For a
value that has no branches the two succeed together.
-/
namespace PageBinding

/-! ## Runs in place -/

open Run in
/-- Makes the assignment of a template. The value is worked out where the assignment needs it. -/
def Stmt.assignWith (f : Frame) (value : Run Value) : Stmt → Run Unit
  | setProperty scope path _ => do
      let v ← value
      if !f.hasData then throw (.failed (.notDefined "data store"))
      setData f scope path v
  | setAttr x name _ => do
      let target ← eval f x
      let e ← lift (target.asElement "setAttribute")
      let v ← value
      Run.setAttr e name v.toRaw
  | setMember x name _ => do
      let target ← eval f x
      let v ← value
      Run.setMember target name v
  | _ => return

/-- The value of a tree at this point of a run. -/
def Direct.run (f : Frame) (d : Direct) : Run Value := do
  Run.lift (d.eval (← get).world f)

/-- What is left of a run: how it ended if it did not succeed, and the world afterwards. -/
def Run.outcome : EStateM.Result (Halt RunError) Running Unit → Except (Halt RunError) Unit × World
  | .ok _ s => (.ok (), s.world)
  | .error halt s => (.error halt, s.world)

/-- Runs a binding in place: the statements `first` look up the target, and then the value of a tree is
assigned to it. -/
def runInPlace (f : Frame) (first : List Stmt) (template : Stmt) (d : Direct) (w : World) :
    Except (Halt RunError) Unit × World :=
  Run.outcome ((Program.execAll f first >>= fun _ => template.assignWith f (d.run f)) ⟨w, []⟩)

/-! ## Assignments -/

section
variable {w : World} {f : Frame} {locals last : Locals} {template assign : Stmt} {value : Run Value}
  {names : List String} {v : Value}

theorem exec_of_fill {x : Expr} (waiting : Binding.IsTemplate names template)
    (filled : template.fill? x = some assign) :
    assign.exec f = template.assignWith f (Run.eval f x) := by
  cases waiting with
  | property scope path =>
      cases filled
      rfl
  | attr name =>
      cases filled
      rfl
  | member name =>
      cases filled
      rfl

theorem assignWith_error {e : RunError} (waiting : Binding.IsTemplate names template)
    (failed : value ⟨w, locals⟩ = .error (.failed e) ⟨w, locals⟩) :
    ∃ e', template.assignWith f value ⟨w, locals⟩ = .error (.failed e') ⟨w, locals⟩ := by
  cases waiting with
  | property scope path => exact ⟨e, bind_of_error failed _⟩
  | @attr x name uses =>
      cases target : x.eval w f locals with
      | error e' => exact ⟨e', bind_of_error (eval_of_error target) _⟩
      | ok owner =>
          rw [Stmt.assignWith, bind_of_ok (eval_of_ok target)]
          cases owner.asElement "setAttribute" with
          | error e' => exact ⟨e', rfl⟩
          | ok element => exact ⟨e, bind_of_error failed _⟩
  | @member x name uses =>
      cases target : x.eval w f locals with
      | error e' => exact ⟨e', bind_of_error (eval_of_error target) _⟩
      | ok owner =>
          rw [Stmt.assignWith, bind_of_ok (eval_of_ok target)]
          exact ⟨e, bind_of_error failed _⟩

theorem outcome_eval {x : Expr} {next next' : Value → Run Unit}
    (same : x.eval w f last = x.eval w f locals)
    (h : ∀ v, Run.outcome (next v ⟨w, last⟩) = Run.outcome (next' v ⟨w, locals⟩)) :
    Run.outcome ((Run.eval f x >>= next) ⟨w, last⟩) =
      Run.outcome ((Run.eval f x >>= next') ⟨w, locals⟩) := by
  cases evaluated : x.eval w f locals with
  | error e =>
      rw [bind_of_error (eval_of_error (same.trans evaluated)),
        bind_of_error (eval_of_error evaluated)]
      rfl
  | ok v =>
      rw [bind_of_ok (eval_of_ok (same.trans evaluated)), bind_of_ok (eval_of_ok evaluated)]
      exact h v

/-- An assignment depends on its value and on the names that its target uses. -/
theorem outcome_assignWith {value' : Run Value} (waiting : Binding.IsTemplate names template)
    (same : ∀ x : Expr, Expr.Uses names x.parts → x.eval w f last = x.eval w f locals)
    (given : value ⟨w, last⟩ = .ok v ⟨w, last⟩) (given' : value' ⟨w, locals⟩ = .ok v ⟨w, locals⟩) :
    Run.outcome (template.assignWith f value ⟨w, last⟩) =
      Run.outcome (template.assignWith f value' ⟨w, locals⟩) := by
  cases waiting with
  | property scope path =>
      rw [Stmt.assignWith, Stmt.assignWith, bind_of_ok given, bind_of_ok given']
      split
      · rfl
      · unfold Run.setData
        dsimp only
        split <;> rfl
  | @attr x name uses =>
      rw [Stmt.assignWith, Stmt.assignWith]
      refine outcome_eval (same x uses) fun owner => ?_
      cases owner.asElement "setAttribute" with
      | error e => rfl
      | ok element =>
          rw [bind_of_ok (show Run.lift (.ok element) _ = .ok element _ from rfl),
            bind_of_ok (show Run.lift (.ok element) _ = .ok element _ from rfl), bind_of_ok given,
            bind_of_ok given']
          rfl
  | @member x name uses =>
      rw [Stmt.assignWith, Stmt.assignWith]
      refine outcome_eval (same x uses) fun owner => ?_
      rw [bind_of_ok given, bind_of_ok given']
      unfold Run.setMember
      dsimp only
      split <;> rfl

end

/-! ## Whole runs -/

/-- The program `p` looks up its target with `first`, reads the accessors of the tree `d`, and then
assigns the value of `value`, which is that of the tree. -/
structure Program.HoistedFrom (w : World) (f : Frame) (p : Program) (first : List Stmt)
    (template : Stmt) (value : Expr) (d : Direct) : Prop where
  inOrder : Scoped 0 first
  waiting : Binding.IsTemplate (namesOf first) template
  hoists : Hoists w f first p.setup [value] [d]
  filled : p.assign = template.fill? value
  isSome : p.assign.isSome = true

namespace Program.HoistedFrom

variable {w after : World} {f : Frame} {p : Program} {first : List Stmt} {template : Stmt}
  {value : Expr} {d : Direct} {locals : Locals} {v : Value}

theorem setup_inOrder (h : p.HoistedFrom w f first template value d) : Scoped 0 p.setup := by
  obtain ⟨added, shape, read⟩ := h.hoists
  rw [shape]
  refine h.inOrder.append ?_
  rw [Nat.zero_add]
  exact read.inOrder

theorem run_eq (h : p.HoistedFrom w f first template value d) :
    p.run f w = Run.outcome
      ((execAll f p.setup >>= fun _ => template.assignWith f (Run.eval f value)) ⟨w, []⟩) := by
  obtain ⟨assign, isAssign⟩ := Option.isSome_iff_exists.1 h.isSome
  rw [← exec_of_fill h.waiting (h.filled.symm.trans isAssign), ← exec_of_assign isAssign]
  rfl

/-- A run that succeeds has read all accessors, and its value is that of the tree. -/
theorem of_run (h : p.HoistedFrom w f first template value d) (ran : p.run f w = (.ok (), after)) :
    ∃ locals v, Stmt.namedAll w f [] p.setup = .ok locals ∧ value.eval w f locals = .ok v ∧
      d.eval w f = .ok v := by
  have runs := run_cases h.setup_inOrder.areNames h.waiting h.filled h.isSome f w
  rw [ran] at runs
  cases runs with
  | @wrote locals v _ _ named evaluated aims written =>
    obtain ⟨added, shape, read⟩ := h.hoists
    obtain ⟨middle, -, ended⟩ := Stmt.namedAll_append.1 (shape ▸ named)
    have same := (List.cons.inj (read.means ended)).1
    exact ⟨locals, v, named, evaluated, same.symm.trans evaluated⟩

/-- A run in place that succeeds has looked up the target, and the tree has a value. -/
theorem of_runInPlace (h : p.HoistedFrom w f first template value d)
    (ran : (runInPlace f first template d w).1 = .ok ()) :
    ∃ middle v, Stmt.namedAll w f [] first = .ok middle ∧ d.eval w f = .ok v := by
  unfold runInPlace at ran
  obtain ⟨middle, named, begun⟩ | ⟨e, last, -, failed⟩ :=
    execAll_named h.inOrder.areNames (w := w) (f := f) []
  · rw [bind_of_ok begun] at ran
    cases evaluated : d.eval w f with
    | ok v => exact ⟨middle, v, named, rfl⟩
    | error e =>
        have unread : d.run f ⟨w, middle⟩ = .error (.failed e) ⟨w, middle⟩ := by
          rw [Direct.run, get_bind, evaluated]
          rfl
        obtain ⟨e', failed⟩ := assignWith_error h.waiting unread
        rw [failed] at ran
        cases ran
  · rw [bind_of_error failed] at ran
    cases ran

/-- When all accessors can be read and the tree has a value, both runs make the same assignment. -/
theorem run_eq_runInPlace (h : p.HoistedFrom w f first template value d)
    (named : Stmt.namedAll w f [] p.setup = .ok locals) (evaluated : d.eval w f = .ok v) :
    p.run f w = runInPlace f first template d w := by
  have inOrder := h.setup_inOrder
  obtain ⟨added, shape, read⟩ := h.hoists
  rw [shape] at inOrder named
  obtain ⟨middle, begun, ended⟩ := Stmt.namedAll_append.1 named
  have meant : value.eval w f locals = .ok v := by
    rw [(List.cons.inj (read.means ended)).1, evaluated]
  have given : d.run f ⟨w, middle⟩ = .ok v ⟨w, middle⟩ := by
    rw [Direct.run, get_bind, evaluated]
    rfl
  rw [h.run_eq, shape, bind_of_ok (execAll_of_named inOrder.areNames named), runInPlace,
    bind_of_ok (execAll_of_named h.inOrder.areNames begun)]
  exact outcome_assignWith h.waiting (fun x uses => Expr.eval_after uses inOrder.apart ended)
    (eval_of_ok meant) given

theorem named_of_readable (h : p.HoistedFrom w f first template value d)
    (begun : Stmt.namedAll w f [] first = .ok locals) (readable : Readable w f d.accesses) :
    ∃ last, Stmt.namedAll w f [] p.setup = .ok last := by
  obtain ⟨added, shape, read⟩ := h.hoists
  obtain ⟨last, ended⟩ := (read.succeeds locals).2 (by simpa [Direct.accessesAll] using readable)
  exact ⟨last, shape ▸ Stmt.namedAll_append.2 ⟨locals, begun, ended⟩⟩

end Program.HoistedFrom

namespace Binding

variable {global context : Int} {text : RawText} {p : Program}

/-- Whatever tree the value of a compiled binding spells, the program is hoisted from it. -/
theorem hoistedFrom_of_build {a : Assignment} {template : Stmt} {first : List Stmt} {value : Expr}
    {d : Direct} (target : IsTarget (targetSetting text global context a) [] a.target template first)
    (source : IsExpr OptionalPath (sourceSetting text global context a) first a.source value p.setup)
    (filled : p.assign = template.fill? value) (isSome : p.assign.isSome = true)
    (spelt : SpellsExpr (sourceSetting text global context a) a.source d) (w : World) (f : Frame) :
    p.HoistedFrom w f first template value d := by
  obtain ⟨added, shape, inOrder, waiting⟩ := target.adds
  rw [List.nil_append] at shape
  subst shape
  exact ⟨inOrder, waiting, hoists_of_spelt spelt source, filled, isSome⟩

/-- A compiled binding looks up and reads all accessors of its value before it assigns anything. If it
succeeds, then so does the run in place, with the same value and the same world afterwards. If nothing
in the value is conditional, the two succeed for the same frames and worlds. -/
theorem run_agrees_in_place (h : (build global context text).result = .ok p) :
    ∃ a template first value, Assignment.ofText text = .ok a ∧
      IsTarget (targetSetting text global context a) [] a.target template first ∧
      p.assign = template.fill? value ∧
      (∃ d, SpellsExpr (sourceSetting text global context a) a.source d) ∧
      ∀ d, SpellsExpr (sourceSetting text global context a) a.source d → ∀ (f : Frame) (w : World),
        (∀ after, p.run f w = (.ok (), after) →
          ∃ locals v, Stmt.namedAll w f [] p.setup = .ok locals ∧ value.eval w f locals = .ok v ∧
            d.eval w f = .ok v ∧ runInPlace f first template d w = (.ok (), after)) ∧
        (d.isStrict = true →
          ((p.run f w).1 = .ok () ↔ (runInPlace f first template d w).1 = .ok ())) := by
  obtain ⟨a, template, first, value, cut, target, source, filled, isSome⟩ := build_iff.1 h
  refine ⟨a, template, first, value, cut, target, filled, source.direct, fun d spelt f w => ?_⟩
  have hoisted := hoistedFrom_of_build target source filled isSome spelt w f
  have inPlace {after : World} (ran : p.run f w = (.ok (), after)) :
      runInPlace f first template d w = (.ok (), after) := by
    obtain ⟨locals, v, named, -, meant⟩ := hoisted.of_run ran
    rw [← ran, hoisted.run_eq_runInPlace named meant]
  refine ⟨fun after ran => ?_, fun strict => ⟨fun ran => ?_, fun ran => ?_⟩⟩
  · obtain ⟨locals, v, named, evaluated, meant⟩ := hoisted.of_run ran
    exact ⟨locals, v, named, evaluated, meant, inPlace ran⟩
  · rw [inPlace (Prod.ext ran rfl)]
  · obtain ⟨middle, v, begun, meant⟩ := hoisted.of_runInPlace ran
    obtain ⟨locals, named⟩ := hoisted.named_of_readable begun (d.readable_of_eval strict meant)
    rw [hoisted.run_eq_runInPlace named meant, ran]

/-- A page with a `p` and a `q` in the bound element. The `q` has a property that is an object. -/
def filledPage : World :=
  let page := Node.node ⟨1, .element, "div", "", [], ""⟩
    [.node ⟨2, .element, "p", "", [], ""⟩ [], .node ⟨3, .element, "q", "", [], ""⟩ []]
  ⟨⟨⟨#[⟨[("b", .string "x")]⟩]⟩, []⟩,
    { Document.ofNodes [page] 4 with properties := [((3, "a"), .object ⟨0⟩)] }, #[], fun _ => 0⟩

/-- A run in the first element of a page. -/
def inFirst : Frame := ⟨none, some ⟨1, "div"⟩, true, true, false, 1⟩

/-- On that page the sample program succeeds, in place as well. -/
theorem sampleProgram_in_place :
    ∃ after, sampleProgram.run inFirst filledPage = (.ok (), after) ∧
      ∃ first template d v, d.eval filledPage inFirst = .ok v ∧
        runInPlace inFirst first template d filledPage = (.ok (), after) := by
  refine ⟨_, rfl, ?_⟩
  obtain ⟨a, template, first, value, -, -, -, ⟨d, spelt⟩, agrees⟩ :=
    run_agrees_in_place build_sampleBinding
  obtain ⟨locals, v, -, -, meant, inPlace⟩ := (agrees d spelt inFirst filledPage).1 _ rfl
  exact ⟨first, template, d, v, meant, inPlace⟩

end Binding

end PageBinding
