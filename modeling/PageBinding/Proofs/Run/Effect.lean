import PageBinding.Proofs.Document.Members
import PageBinding.Proofs.Reading.Scoping
import PageBinding.Proofs.Store.Atomic

/-!
What running a compiled binding does to the world: nothing if it fails, and one write if it
succeeds. Setup statements only read, so the write is worked out in the world before the run. A run
that never comes back is stuck in its write, which has changed nothing yet.
-/
namespace PageBinding

/-! ## Setup -/

namespace Stmt

/-- The names after a setup statement, in a world that stays as it is. -/
def named (w : World) (f : Frame) (locals : Locals) : Stmt → Except RunError Locals
  | lookup name selector whole =>
      match w.find f selector whole with
      | .ok (some e) => .ok ((name, .value (.element e)) :: locals)
      | .ok none => .ok ((name, .unresolved selector whole) :: locals)
      | .error e => .error e
  | declare name value =>
      match value.eval w f locals with
      | .ok v => .ok ((name, .value v) :: locals)
      | .error e => .error e
  | _ => .ok locals

/-- The names after setup statements. -/
def namedAll (w : World) (f : Frame) : Locals → List Stmt → Except RunError Locals
  | locals, [] => .ok locals
  | locals, st :: rest =>
      match st.named w f locals with
      | .ok locals => namedAll w f locals rest
      | .error e => .error e

end Stmt

section
variable {e : RunError} {s : Running} {f : Frame} {y : Expr} {v : Value}

theorem eval_of_ok (h : y.eval s.world f s.locals = .ok v) : Run.eval f y s = .ok v s := by
  unfold Run.eval
  rw [h]

theorem eval_of_error (h : y.eval s.world f s.locals = .error e) :
    Run.eval f y s = .error (.failed e) s := by
  unfold Run.eval
  rw [h]

end

/-- How a run goes on with new names or ends with an error, in a world that stays as it is. -/
def goesOn (w : World) (before : Locals) : Except RunError Locals →
    EStateM.Result (Halt RunError) Running Unit
  | .ok locals => .ok () ⟨w, locals⟩
  | .error e => .error (.failed e) ⟨w, before⟩

variable {w after : World} {f : Frame} {locals : Locals}

theorem exec_named {st : Stmt} (isName : st.name?.isSome = true) :
    st.exec f ⟨w, locals⟩ = goesOn w locals (st.named w f locals) := by
  cases st with
  | lookup name selector whole =>
      rw [Stmt.exec, Stmt.named, get_bind]
      cases found : w.find f selector whole with
      | error e => rfl
      | ok element? =>
          cases element? with
          | some e => rfl
          | none => rfl
  | declare name value =>
      rw [Stmt.exec, Stmt.named]
      cases found : value.eval w f locals with
      | error e => rw [bind_of_error (eval_of_error found)]; rfl
      | ok v => rw [bind_of_ok (eval_of_ok found)]; rfl
  | setProperty scope path value => cases isName
  | setAttr x name value => cases isName
  | setMember x name value => cases isName

/-- Setup statements change nothing in the world. -/
theorem execAll_named {setup : List Stmt} (areNames : ∀ st ∈ setup, st.name?.isSome = true)
    (locals : Locals) :
    (∃ last, Stmt.namedAll w f locals setup = .ok last ∧
      Program.execAll f setup ⟨w, locals⟩ = .ok () ⟨w, last⟩) ∨
    ∃ e last, Stmt.namedAll w f locals setup = .error e ∧
      Program.execAll f setup ⟨w, locals⟩ = .error (.failed e) ⟨w, last⟩ := by
  induction setup generalizing locals with
  | nil => exact .inl ⟨locals, rfl, rfl⟩
  | cons st rest ih =>
      have step : st.exec f ⟨w, locals⟩ = _ := exec_named (areNames st List.mem_cons_self)
      rw [Program.execAll, Stmt.namedAll]
      cases found : st.named w f locals with
      | error e =>
          rw [found] at step
          exact .inr ⟨e, locals, rfl, bind_of_error step _⟩
      | ok next =>
          rw [found] at step
          rw [bind_of_ok step]
          exact ih (fun st mem => areNames st (List.mem_cons_of_mem _ mem)) next

/-! ## Writes -/

/-- One write to what programs can change. -/
inductive Write
  /-- A value at a path of a context of the data store. -/
  | property (context : Int) (path : String) (value : Value)
  /-- An attribute of an element. -/
  | attr (e : ElementRef) (name : String) (text : RawText)
  /-- A member of an object or an element. -/
  | member (owner : Value) (name : String) (value : Value)

/-- The world after a write; none if the write is refused. -/
def Write.result? (w : World) : Write → Option World
  | property context path value =>
      match Store.assign false context path value w.store with
      | .ok _ store => some { w with store }
      | .error _ _ => none
  | attr e name text => some { w with document := w.document.setAttr e name text }
  | member owner name value => (w.setMember owner name value).toOption

/-- The write that an assignment aims at when its value is `v`. -/
inductive Aims (w : World) (f : Frame) (locals : Locals) (v : Value) : Stmt → Write → Prop
  | property (scope : Scope) (path : String) :
      Aims w f locals v (.setProperty scope path .placeholder)
        (.property (scope.resolve f.bound) path v)
  | attr {x : Expr} {e : ElementRef} (name : String) :
      x.eval w f locals = .ok (.element e) →
      Aims w f locals v (.setAttr x name .placeholder) (.attr e name v.toRaw)
  | member {x : Expr} {owner : Value} (name : String) :
      x.eval w f locals = .ok owner →
      Aims w f locals v (.setMember x name .placeholder) (.member owner name v)

/-- A write that never comes back: a member goes into the markup, and the value has no end when it is
printed. -/
def Write.Endless (w : World) (write : Write) : Prop :=
  ∃ e name v, write = .member (.element e) name v ∧ name ∈ markupProperties ∧ ¬ w.Ends v

/-- An assignment fails or never comes back, and changes nothing, or it makes the one write that it
aims at. -/
inductive OneWrite (w : World) (f : Frame) (locals : Locals) (template : Stmt) (value : Expr) :
    EStateM.Result (Halt RunError) Running Unit → Prop
  | failed (e : RunError) (last : Locals) :
      OneWrite w f locals template value (.error (.failed e) ⟨w, last⟩)
  | never {v : Value} {write : Write} (why : Stuck) (last : Locals) :
      value.eval w f locals = .ok v → Aims w f locals v template write → write.Endless w →
      OneWrite w f locals template value (.error (.never why) ⟨w, last⟩)
  | wrote {v : Value} {write : Write} {after : World} (last : Locals) :
      value.eval w f locals = .ok v → Aims w f locals v template write →
      write.result? w = some after → OneWrite w f locals template value (.ok () ⟨after, last⟩)

theorem setData_oneWrite {value : Expr} {v : Value} (scope : Scope) (path : String)
    (evaluated : value.eval w f locals = .ok v) :
    OneWrite w f locals (.setProperty scope path .placeholder) value
      (Run.setData f scope path v ⟨w, locals⟩) := by
  unfold Run.setData EStateM.run
  cases stored : Store.assign f.canceled (scope.resolve f.bound) path v w.store with
  | error cause store =>
      obtain rfl := Store.assign_error stored
      exact .failed _ locals
  | ok u store =>
      -- a run that was called off cannot have stored anything
      have going : f.canceled = false := by
        cases canceled : f.canceled with
        | false => rfl
        | true =>
            rw [canceled] at stored
            cases stored
      refine .wrote locals evaluated (.property scope path) ?_
      rw [going] at stored
      rw [Write.result?, stored]

theorem exec_setProperty (scope : Scope) (path : String) (value : Expr) :
    OneWrite w f locals (.setProperty scope path .placeholder) value
      ((Stmt.setProperty scope path value).exec f ⟨w, locals⟩) := by
  rw [Stmt.exec]
  cases evaluated : value.eval w f locals with
  | error e =>
      rw [bind_of_error (eval_of_error evaluated)]
      exact .failed e locals
  | ok v =>
      rw [bind_of_ok (eval_of_ok evaluated)]
      by_cases noData : (!f.hasData) = true
      · rw [if_pos noData]
        exact .failed _ locals
      · rw [if_neg noData]
        exact setData_oneWrite scope path evaluated

theorem exec_setAttr_element {owner value : Expr} {e : ElementRef} {v : Value} (name : String)
    (isElement : owner.eval w f locals = .ok (.element e)) (evaluated : value.eval w f locals = .ok v) :
    (Stmt.setAttr owner name value).exec f ⟨w, locals⟩ =
      .ok () ⟨{ w with document := w.document.setAttr e name v.toRaw }, locals⟩ := by
  have found : Run.lift ((Value.element e).asElement "setAttribute") ⟨w, locals⟩ =
      .ok e ⟨w, locals⟩ := rfl
  rw [Stmt.exec, bind_of_ok (eval_of_ok isElement), bind_of_ok found,
    bind_of_ok (eval_of_ok evaluated)]
  rfl

theorem exec_setAttr (x : Expr) (name : String) (value : Expr) :
    OneWrite w f locals (.setAttr x name .placeholder) value
      ((Stmt.setAttr x name value).exec f ⟨w, locals⟩) := by
  cases target : x.eval w f locals with
  | error e =>
      rw [Stmt.exec, bind_of_error (eval_of_error target)]
      exact .failed e locals
  | ok owner =>
      cases isElement : owner.asElement "setAttribute" with
      | error e =>
          rw [Stmt.exec, bind_of_ok (eval_of_ok target), isElement]
          exact .failed e locals
      | ok e =>
          obtain rfl : owner = .element e := by
            unfold Value.asElement at isElement
            split at isElement
            · cases isElement
              rfl
            · split at isElement <;> cases isElement
          cases evaluated : value.eval w f locals with
          | error e' =>
              have found : Run.lift (.ok e) ⟨w, locals⟩ = .ok e ⟨w, locals⟩ := rfl
              rw [Stmt.exec, bind_of_ok (eval_of_ok target), isElement, bind_of_ok found,
                bind_of_error (eval_of_error evaluated)]
              exact .failed e' locals
          | ok v =>
              rw [exec_setAttr_element name target evaluated]
              exact .wrote locals evaluated (.attr name target) rfl

/-- Of all writes of members, only those that print a value without an end never come back. -/
theorem endless_of_never {owner v : Value} {name : String} {why : Stuck}
    (stuck : w.setMember owner name v = .error (.never why)) :
    (Write.member owner name v).Endless w := by
  unfold World.setMember at stuck
  split at stuck
  case h_4 e =>
    split at stuck
    · cases stuck
    · by_cases mem : name ∈ markupProperties
      · refine ⟨e, name, v, rfl, mem, fun ends => ?_⟩
        obtain ⟨text, printed⟩ := World.printed_ok.2 ends
        rw [World.setProperty_markup mem, printed] at stuck
        cases stuck
      · rw [World.setProperty_other mem] at stuck
        cases stuck
  all_goals cases stuck

theorem exec_setMember (x : Expr) (name : String) (value : Expr) :
    OneWrite w f locals (.setMember x name .placeholder) value
      ((Stmt.setMember x name value).exec f ⟨w, locals⟩) := by
  rw [Stmt.exec]
  cases target : x.eval w f locals with
  | error e =>
      rw [bind_of_error (eval_of_error target)]
      exact .failed e locals
  | ok owner =>
      rw [bind_of_ok (eval_of_ok target)]
      cases evaluated : value.eval w f locals with
      | error e =>
          rw [bind_of_error (eval_of_error evaluated)]
          exact .failed e locals
      | ok v =>
          rw [bind_of_ok (eval_of_ok evaluated)]
          unfold Run.setMember
          cases written : w.setMember owner name v with
          | error halt =>
              cases halt with
              | failed e => exact .failed e locals
              | never why =>
                  exact .never why locals evaluated (.member name target)
                    (endless_of_never written)
          | ok after =>
              refine .wrote locals evaluated (.member name target) ?_
              rw [Write.result?, written]
              rfl

theorem exec_assign {names : List String} {template assign : Stmt} {value : Expr}
    (waiting : Binding.IsTemplate names template) (filled : template.fill? value = some assign) :
    OneWrite w f locals template value (assign.exec f ⟨w, locals⟩) := by
  cases waiting with
  | property scope path =>
      cases filled
      exact exec_setProperty scope path value
  | attr name =>
      cases filled
      exact exec_setAttr _ name value
  | member name =>
      cases filled
      exact exec_setMember _ name value

/-! ## Whole programs -/

theorem execAll_append (f : Frame) (xs ys : List Stmt) :
    Program.execAll f (xs ++ ys) = Program.execAll f xs >>= fun _ => Program.execAll f ys := by
  induction xs with
  | nil => rfl
  | cons st rest ih => rw [List.cons_append, Program.execAll, Program.execAll, ih, bind_assoc]

theorem run_of_error {p : Program} {halt : Halt RunError} {s : Running}
    (h : p.exec f ⟨w, []⟩ = .error halt s) : p.run f w = (.error halt, s.world) := by
  unfold Program.run EStateM.run
  rw [h]

theorem run_of_ok {p : Program} {s : Running} (h : p.exec f ⟨w, []⟩ = .ok () s) :
    p.run f w = (.ok (), s.world) := by
  unfold Program.run EStateM.run
  rw [h]

theorem exec_of_assign {p : Program} {assign : Stmt} (isAssign : p.assign = some assign) :
    p.exec f = Program.execAll f p.setup >>= fun _ => assign.exec f := by
  unfold Program.exec Program.statements
  rw [isAssign, Option.toList_some, execAll_append]
  exact congrArg _ (funext fun _ => bind_pure (assign.exec f))

/-- How a run of a program ends whose setup names things in a world and whose assignment aims at a
write. -/
inductive RunsTo (w : World) (f : Frame) (setup : List Stmt) (template : Stmt) (value : Expr) :
    Except (Halt RunError) Unit × World → Prop
  | failed (e : RunError) : RunsTo w f setup template value (.error (.failed e), w)
  | never {locals : Locals} {v : Value} {write : Write} (why : Stuck) :
      Stmt.namedAll w f [] setup = .ok locals → value.eval w f locals = .ok v →
      Aims w f locals v template write → write.Endless w →
      RunsTo w f setup template value (.error (.never why), w)
  | wrote {locals : Locals} {v : Value} {write : Write} {after : World} :
      Stmt.namedAll w f [] setup = .ok locals → value.eval w f locals = .ok v →
      Aims w f locals v template write → write.result? w = some after →
      RunsTo w f setup template value (.ok (), after)

/-- Setup statements read, and then there is one write or none. -/
theorem run_cases {names : List String} {template : Stmt} {value : Expr} {p : Program}
    (areNames : ∀ st ∈ p.setup, st.name?.isSome = true)
    (waiting : Binding.IsTemplate names template) (filled : p.assign = template.fill? value)
    (isSome : p.assign.isSome = true) (f : Frame) (w : World) :
    RunsTo w f p.setup template value (p.run f w) := by
  obtain ⟨assign, isAssign⟩ := Option.isSome_iff_exists.1 isSome
  have split : p.exec f = _ := exec_of_assign isAssign
  obtain ⟨locals, named, ran⟩ | ⟨e, last, -, failed⟩ := execAll_named areNames (w := w) (f := f) []
  · have assigned : OneWrite w f locals template value (assign.exec f ⟨w, locals⟩) :=
      exec_assign waiting (filled.symm.trans isAssign)
    have ends : p.exec f ⟨w, []⟩ = assign.exec f ⟨w, locals⟩ := by rw [split, bind_of_ok ran]
    generalize assign.exec f ⟨w, locals⟩ = result at assigned ends
    cases assigned with
    | failed e last =>
      rw [run_of_error ends]
      exact .failed e
    | never why last evaluated aims endless =>
      rw [run_of_error ends]
      exact .never why named evaluated aims endless
    | wrote last evaluated aims written =>
      rw [run_of_ok ends]
      exact .wrote named evaluated aims written
  · have ends : p.exec f ⟨w, []⟩ = .error (.failed e) ⟨w, last⟩ := by
      rw [split, bind_of_error failed]
    rw [run_of_error ends]
    exact .failed e

theorem Scoped.areNames {start : Nat} {setup : List Stmt} (h : Scoped start setup) :
    ∀ st ∈ setup, st.name?.isSome = true := by
  intro st mem
  obtain ⟨i, found⟩ := List.mem_iff_getElem?.1 mem
  obtain ⟨stem, -, name⟩ := (h.get found).1.name
  rw [name]
  rfl

/-- A compiled binding that fails has changed nothing. One that succeeds has made one write, at its
target and of its value, both as they are in the world before the run. One that never comes back is
stuck in that write, of a value that has no end when it is printed. -/
theorem run_writes_once {global context : Int} {text : RawText} {p : Program}
    (h : (Binding.build global context text).result = .ok p) (f : Frame) (w : World) :
    (∀ e after, p.run f w = (.error (.failed e), after) → after = w) ∧
      ∃ template first value, Binding.ReadAs global context text template first value p.setup ∧
        p.assign = template.fill? value ∧
        (∀ after, p.run f w = (.ok (), after) →
          ∃ locals v write, Stmt.namedAll w f [] p.setup = .ok locals ∧
            value.eval w f locals = .ok v ∧ Aims w f locals v template write ∧
            write.result? w = some after) ∧
        ∀ why after, p.run f w = (.error (.never why), after) →
          ∃ locals v write, Stmt.namedAll w f [] p.setup = .ok locals ∧
            value.eval w f locals = .ok v ∧ Aims w f locals v template write ∧
            write.Endless w := by
  obtain ⟨template, first, value, read, filled, isSome⟩ := Binding.build_ok h
  obtain ⟨later, -, inOrder, waiting, -⟩ := read.scopes
  have runs : RunsTo w f p.setup template value (p.run f w) :=
    run_cases inOrder.areNames waiting filled isSome f w
  refine ⟨fun e after ran => ?_, template, first, value, read, filled, fun after ran => ?_,
    fun why after ran => ?_⟩
  · rw [ran] at runs
    cases runs
    rfl
  · rw [ran] at runs
    cases runs with
    | wrote named evaluated aims written => exact ⟨_, _, _, named, evaluated, aims, written⟩
  · rw [ran] at runs
    cases runs with
    | never why named evaluated aims endless => exact ⟨_, _, _, named, evaluated, aims, endless⟩

/-- A program that writes a text of the data into an attribute of the bound element. -/
def marksElement : Program :=
  ⟨[], some (.setAttr .element "a" (.get (.bound 1) "s"))⟩

/-- A text that is no characters goes into an attribute of a paragraph as its bytes, by one write. -/
theorem marksElement_writes_once :
    let p : ElementRef := ⟨1, "p"⟩
    let data := Heap.empty.alloc (Fields.empty.put "s" (.bytes [0xff]))
    let w : World :=
      { World.empty with
        document := .ofNodes [.node ⟨1, .element, "p", "", [⟨"", "a", .chars "b"⟩], ""⟩ []] 2
        store := ⟨data.2, [(1, data.1)]⟩ }
    let f : Frame := ⟨none, some p, true, true, false, 1⟩
    ∃ after, marksElement.run f w = (.ok (), after) ∧
      after.document.attr? p "a" = some (.ofBytes [0xff]) ∧
      ∃ template first value locals v write,
        Binding.ReadAs 0 1 "attr($element, 'a') = s" template first value marksElement.setup ∧
        value.eval w f locals = .ok v ∧ Aims w f locals v template write ∧
        write.result? w = some after := by
  intro p data w f
  have scanned : Token.scan "attr($element, 'a') = s" =
      [⟨.identifier, 0, "attr"⟩, ⟨.leftParen, 4, "("⟩, ⟨.identifier, 5, "$element"⟩,
        ⟨.comma, 13, ","⟩, ⟨.string, 15, "'a'"⟩, ⟨.rightParen, 18, ")"⟩, ⟨.assign, 20, "="⟩,
        ⟨.identifier, 22, "s"⟩, .eofAt 23] := by
    decide +kernel
  have built : (Binding.build 0 1 "attr($element, 'a') = s").result = .ok marksElement := by
    unfold Binding.build Assignment.ofText
    rw [Token.scanRaw, scanned]
    rfl
  have ran : marksElement.run f w =
      (.ok (), { w with document := w.document.setAttr p "a" (Value.bytes [0xff]).toRaw }) := rfl
  refine ⟨_, ran, rfl, ?_⟩
  obtain ⟨-, template, first, value, read, -, wrote, -⟩ := run_writes_once built f w
  obtain ⟨locals, v, write, -, evaluated, aims, applied⟩ := wrote _ ran
  exact ⟨template, first, value, locals, v, write, read, evaluated, aims, applied⟩

/-- A program that stores the bound element. -/
def storesElement : Program :=
  ⟨[], some (.setProperty (.bound 1) "x" .element)⟩

theorem build_storesElement :
    (Binding.build 0 1 "x = $element").result = .ok storesElement := by
  have scanned : Token.scan "x = $element" =
      [⟨.identifier, 0, "x"⟩, ⟨.assign, 2, "="⟩, ⟨.identifier, 4, "$element"⟩, .eofAt 12] := by
    decide +kernel
  unfold Binding.build Assignment.ofText
  rw [Token.scanRaw, scanned]
  rfl

end PageBinding
