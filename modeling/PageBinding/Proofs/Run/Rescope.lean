import PageBinding.Proofs.Reading.Compiles
import PageBinding.Proofs.Run.Effect

/-!
The context that a binding is compiled for. It stands in the program as the scope of the bound paths,
and a run never looks at it there: what a scope means is decided by the context that the program is
bound to, or it is the global context.

`rescope` exchanges the scopes of a program. Exchanged scopes that mean the same contexts leave every
run as it is, and compiling for other contexts does no more than exchange scopes.
-/
namespace PageBinding

namespace Scope

/-- The scope of the same path compiled for other contexts. -/
def compiledFor (global context : Int) (scope : Scope) : Scope :=
  if scope.global then .fixed global else .bound context

/-- The scope of the same path with the bound context written into it. -/
def pinned (global bound : Int) (scope : Scope) : Scope :=
  .fixed (if scope.global then global else bound)

theorem resolve_compiledFor (global context bound : Int) (scope : Scope) :
    (scope.compiledFor global context).resolve bound = if scope.global then global else bound := by
  unfold compiledFor
  split <;> rfl

end Scope

variable (change : Scope → Scope)

namespace Expr

mutual

/-- An expression with its scopes exchanged. -/
def rescope : Expr → Expr
  | get scope path => get (change scope) path
  | attr x name => attr (rescope x) name
  | member x name => member (rescope x) name
  | index x i => index (rescope x) (rescope i)
  | call x method args => call (rescope x) method (rescopeAll args)
  | unary op x => unary op (rescope x)
  | binary op l r => binary op (rescope l) (rescope r)
  | cond c t e => cond (rescope c) (rescope t) (rescope e)
  | paren x => paren (rescope x)
  | lit text value => lit text value
  | event => event
  | target => target
  | element => element
  | var name => var name
  | placeholder => placeholder

/-- Expressions with their scopes exchanged. -/
def rescopeAll : List Expr → List Expr
  | [] => []
  | x :: xs => rescope x :: rescopeAll xs

end

theorem rescope_foldl_member (x : Expr) (keys : List String) :
    (keys.foldl member x).rescope change = keys.foldl member (x.rescope change) := by
  induction keys generalizing x with
  | nil => rfl
  | cons key keys ih =>
      rw [List.foldl_cons, List.foldl_cons, ih (member x key), rescope]

theorem isPlaceholder_rescope (x : Expr) : (x.rescope change).isPlaceholder = x.isPlaceholder := by
  cases x <;> rfl

end Expr

namespace Stmt

/-- A statement with its scopes exchanged. -/
def rescope : Stmt → Stmt
  | lookup name selector whole => lookup name selector whole
  | declare name value => declare name (value.rescope change)
  | setProperty scope path value => setProperty (change scope) path (value.rescope change)
  | setAttr x name value => setAttr (x.rescope change) name (value.rescope change)
  | setMember x name value => setMember (x.rescope change) name (value.rescope change)

theorem fill?_rescope (template : Stmt) (value : Expr) :
    (template.rescope change).fill? (value.rescope change) =
      (template.fill? value).map (rescope change) := by
  cases template with
  | lookup name selector whole => rfl
  | declare name old => rfl
  | setProperty scope path old =>
      simp only [rescope, fill?, Expr.isPlaceholder_rescope]
      split <;> rfl
  | setAttr x name old =>
      simp only [rescope, fill?, Expr.isPlaceholder_rescope]
      split <;> rfl
  | setMember x name old =>
      simp only [rescope, fill?, Expr.isPlaceholder_rescope]
      split <;> rfl

end Stmt

/-- A program with its scopes exchanged. -/
def Program.rescope (p : Program) : Program :=
  ⟨p.setup.map (Stmt.rescope change), p.assign.map (Stmt.rescope change)⟩

/-! ## Running -/

section
variable {change} {change' : Scope → Scope} {f : Frame} {bound : Int}

mutual

/-- Evaluation sees of a scope only the context that it means. -/
theorem eval_rescope
    (alike : ∀ scope, (change scope).resolve bound = (change' scope).resolve f.bound)
    (w : World) (locals : Locals) : (x : Expr) →
    (x.rescope change).eval w { f with bound } locals = (x.rescope change').eval w f locals
  | .get scope path => by
      simp only [Expr.rescope, Expr.eval, World.getData, alike scope]
  | .attr x _ | .member x _ | .unary _ x => by
      simp only [Expr.rescope, Expr.eval, eval_rescope alike w locals x]
  | .paren x => by simp only [Expr.rescope, Expr.eval, eval_rescope alike w locals x]
  | .index x i => by
      simp only [Expr.rescope, Expr.eval, eval_rescope alike w locals x, eval_rescope alike w locals i]
  | .call x _ args => by
      simp only [Expr.rescope, Expr.eval, eval_rescope alike w locals x,
        evalAll_rescope alike w locals args]
  | .binary _ l r => by
      simp only [Expr.rescope, Expr.eval, eval_rescope alike w locals l, eval_rescope alike w locals r]
  | .cond c t e => by
      simp only [Expr.rescope, Expr.eval, eval_rescope alike w locals c,
        eval_rescope alike w locals t, eval_rescope alike w locals e]
  | .lit _ _ | .event | .target | .element | .var _ | .placeholder => by
      simp only [Expr.rescope, Expr.eval, Expr.evalTarget]

theorem evalAll_rescope
    (alike : ∀ scope, (change scope).resolve bound = (change' scope).resolve f.bound)
    (w : World) (locals : Locals) : (xs : List Expr) →
    Expr.evalAll w { f with bound } locals (Expr.rescopeAll change xs) =
      Expr.evalAll w f locals (Expr.rescopeAll change' xs)
  | [] => by simp only [Expr.rescopeAll, Expr.evalAll]
  | x :: xs => by
      simp only [Expr.rescopeAll, Expr.evalAll, eval_rescope alike w locals x,
        evalAll_rescope alike w locals xs]

end

variable (alike : ∀ scope, (change scope).resolve bound = (change' scope).resolve f.bound)
include alike

theorem runEval_rescope (x : Expr) :
    Run.eval { f with bound } (x.rescope change) = Run.eval f (x.rescope change') := by
  funext s
  unfold Run.eval
  rw [eval_rescope alike]

theorem exec_rescope (st : Stmt) :
    (st.rescope change).exec { f with bound } = (st.rescope change').exec f := by
  have value (x : Expr) := runEval_rescope alike x
  cases st with
  | lookup name selector whole => rfl
  | declare name x => simp only [Stmt.rescope, Stmt.exec, value]
  | setProperty scope path x =>
      have written (v : Value) :
          Run.setData { f with bound } (change scope) path v = Run.setData f (change' scope) path v := by
        funext s
        unfold Run.setData
        rw [alike]
      simp only [Stmt.rescope, Stmt.exec, value, written]
  | setAttr x name y => simp only [Stmt.rescope, Stmt.exec, value]
  | setMember x name y => simp only [Stmt.rescope, Stmt.exec, value]

theorem execAll_rescope (sts : List Stmt) :
    Program.execAll { f with bound } (sts.map (Stmt.rescope change)) =
      Program.execAll f (sts.map (Stmt.rescope change')) := by
  induction sts with
  | nil => rfl
  | cons st rest ih =>
      simp only [List.map_cons, Program.execAll, exec_rescope alike st, ih]

/-- Scopes that mean the same contexts make the same run. -/
theorem run_rescope (p : Program) (w : World) :
    (p.rescope change).run { f with bound } w = (p.rescope change').run f w := by
  have statements (change : Scope → Scope) :
      (p.rescope change).statements = p.statements.map (Stmt.rescope change) := by
    unfold Program.statements Program.rescope
    cases p.assign <;> simp
  unfold Program.run Program.exec
  rw [statements, statements, execAll_rescope alike]

end

/-! ## Compiling -/

namespace Binding

/-- A side read for other contexts. -/
def Setting.compiledFor (s : Setting) (global context : Int) : Setting :=
  { s with global, context }

theorem located_rescope (a : List Stmt) (found : Locator) :
    located (a.map (Stmt.rescope change)) found =
      ((located a found).1.rescope change, (located a found).2.map (Stmt.rescope change)) := by
  cases found with
  | self => rfl
  | find selector whole => simp [located, Stmt.rescope, Expr.rescope]

theorem accessed_rescope (side : Side) (a : List Stmt) (found : Accessor) :
    accessed side (a.map (Stmt.rescope change)) found =
      ((accessed side a found).1.rescope change,
        (accessed side a found).2.map (Stmt.rescope change)) := by
  unfold accessed
  rw [located_rescope]
  split
  · simp [Stmt.rescope, Expr.rescope]
  · simp [Stmt.rescope, Expr.rescope, memberPath, Expr.rescope_foldl_member]

theorem namedValue_rescope {name : String} {x : Expr} (h : namedValue? name = some x) :
    x.rescope change = x := by
  unfold namedValue? at h
  repeat' split at h
  all_goals cases h
  all_goals rfl

theorem setMemberPath_rescope (x : Expr) (path : String) :
    (setMemberPath x path .placeholder).rescope change =
      setMemberPath (x.rescope change) path .placeholder := by
  have inner : (memberPath x path).rescope change = memberPath (x.rescope change) path :=
    Expr.rescope_foldl_member change x _
  unfold setMemberPath
  rw [← inner]
  cases memberPath x path <;> rfl

section
variable {marker : MarkerRule} {s : Setting} (global context : Int)

mutual

theorem IsExpr.rescope {a b : List Stmt} {ts : List Token} {x : Expr} :
    IsExpr marker s a ts x b →
      IsExpr marker (s.compiledFor global context)
        (a.map (Stmt.rescope (Scope.compiledFor global context))) ts
        (x.rescope (Scope.compiledFor global context))
        (b.map (Stmt.rescope (Scope.compiledFor global context)))
  | .plain h => .plain h.rescope
  | .cond condition isQuestion yes isColon no => by
      rw [Expr.rescope]
      exact .cond condition.rescope isQuestion yes.rescope isColon no.rescope

theorem IsBinary.rescope {least : Nat} {a b : List Stmt} {ts : List Token} {x : Expr} :
    IsBinary marker s least a ts x b →
      IsBinary marker (s.compiledFor global context) least
        (a.map (Stmt.rescope (Scope.compiledFor global context))) ts
        (x.rescope (Scope.compiledFor global context))
        (b.map (Stmt.rescope (Scope.compiledFor global context)))
  | .operand h => .operand h.rescope
  | .apply left isOp level right => by
      rw [Expr.rescope]
      exact .apply left.rescope isOp level right.rescope

theorem IsUnary.rescope {a b : List Stmt} {ts : List Token} {x : Expr} :
    IsUnary marker s a ts x b →
      IsUnary marker (s.compiledFor global context)
        (a.map (Stmt.rescope (Scope.compiledFor global context))) ts
        (x.rescope (Scope.compiledFor global context))
        (b.map (Stmt.rescope (Scope.compiledFor global context)))
  | .operand h => .operand h.rescope
  | .apply isOp h => by
      rw [Expr.rescope]
      exact .apply isOp h.rescope

theorem IsOperand.rescope {f : Follow} {a b : List Stmt} {ts : List Token} {x : Expr} :
    IsOperand marker s f a ts x b →
      IsOperand marker (s.compiledFor global context) f
        (a.map (Stmt.rescope (Scope.compiledFor global context))) ts
        (x.rescope (Scope.compiledFor global context))
        (b.map (Stmt.rescope (Scope.compiledFor global context)))
  | .number kind read => .number kind read
  | .string kind read => .string kind read
  | .paren isLeft h isRight => by
      rw [Expr.rescope]
      exact .paren isLeft h.rescope isRight
  | .named kind found => by
      rw [namedValue_rescope _ found]
      exact .named kind found
  | .access kind isFn side read => by
      have moved : IsOperand marker (s.compiledFor global context) .all _ _ _ _ :=
        .access (a := a.map (Stmt.rescope (Scope.compiledFor global context))) kind isFn side read
      rwa [accessed_rescope] at moved
  | .global kind isMarker side h =>
      .global (s := s.compiledFor global context) kind isMarker side h
  | .path h begins => .path (s := s.compiledFor global context) h begins
  | .method h begins isDot isName arguments => by
      rw [Expr.rescope]
      exact .method (s := s.compiledFor global context) h begins isDot isName arguments.rescope
  | .member h isDot isName => by
      rw [Expr.rescope]
      exact .member h.rescope isDot isName
  | .call h follows isDot isName arguments => by
      rw [Expr.rescope]
      exact .call h.rescope follows isDot isName arguments.rescope
  | .index h isLeft i isRight => by
      rw [Expr.rescope]
      exact .index h.rescope isLeft i.rescope isRight

theorem IsArgs.rescope {a b : List Stmt} {ts : List Token} {xs : List Expr} :
    IsArgs marker s a ts xs b →
      IsArgs marker (s.compiledFor global context)
        (a.map (Stmt.rescope (Scope.compiledFor global context))) ts
        (Expr.rescopeAll (Scope.compiledFor global context) xs)
        (b.map (Stmt.rescope (Scope.compiledFor global context)))
  | .none isLeft isRight => .none isLeft isRight
  | .some isLeft h => .some isLeft h.rescope

theorem IsItems.rescope {a b : List Stmt} {ts : List Token} {xs : List Expr} :
    IsItems marker s a ts xs b →
      IsItems marker (s.compiledFor global context)
        (a.map (Stmt.rescope (Scope.compiledFor global context))) ts
        (Expr.rescopeAll (Scope.compiledFor global context) xs)
        (b.map (Stmt.rescope (Scope.compiledFor global context)))
  | .last h isRight => .last h.rescope isRight
  | .more h isComma rest => .more h.rescope isComma rest.rescope

end

theorem IsTarget.rescope {a b : List Stmt} {ts : List Token} {st : Stmt}
    (h : IsTarget s a ts st b) :
    IsTarget (s.compiledFor global context)
      (a.map (Stmt.rescope (Scope.compiledFor global context))) ts
      (st.rescope (Scope.compiledFor global context))
      (b.map (Stmt.rescope (Scope.compiledFor global context))) := by
  cases h with
  | attr side read =>
      have moved := IsTarget.attr (s := s.compiledFor global context)
        (a := a.map (Stmt.rescope (Scope.compiledFor global context))) side read
      rwa [located_rescope] at moved
  | prop side read =>
      have moved := IsTarget.prop (s := s.compiledFor global context)
        (a := a.map (Stmt.rescope (Scope.compiledFor global context))) side read
      rwa [located_rescope, ← setMemberPath_rescope] at moved
  | global side kind isMarker h => exact .global (s := s.compiledFor global context) side kind isMarker h
  | data side path plain free => exact .data (s := s.compiledFor global context) side path plain free

end

/-- Compiled for other contexts, a binding has the same program with those contexts in its
scopes. -/
theorem build_rescope {global context : Int} {text : String} {p : Program}
    (built : (build global context text).result = .ok p) (global' context' : Int) :
    (build global' context' text).result =
      .ok (p.rescope (Scope.compiledFor global' context')) := by
  obtain ⟨a, template, first, value, cut, isTarget, isValue, filled, isSome⟩ := build_iff.1 built
  apply build_iff.2
  refine ⟨a, _, _, _, cut, isTarget.rescope global' context', isValue.rescope global' context', ?_, ?_⟩
  · rw [Stmt.fill?_rescope, ← filled]
    rfl
  · simpa [Program.rescope] using isSome

theorem rescope_of_build {global context : Int} {text : String} {p : Program}
    (built : (build global context text).result = .ok p) :
    p.rescope (Scope.compiledFor global context) = p := by
  have again := build_rescope built global context
  rw [built] at again
  exact (Except.ok.inj again).symm

/-- The context that a binding is compiled for does not matter. Whether it compiles does not depend
on it, and its programs do the same in every frame. They are the programs that the grammar derives,
and in a frame they do what is done with each bound path taken in the context that the frame is bound
to and each global path in the global context, whatever the frame would be bound to then. -/
theorem run_ignores_compile_context (global : Int) (text : String) (context context' : Int) :
    ((∃ p, (build global context text).result = .ok p) ↔
      ∃ p, (build global context' text).result = .ok p) ∧
    ∀ p p', (build global context text).result = .ok p →
      (build global context' text).result = .ok p' →
      (∀ f w, p.run f w = p'.run f w) ∧
      (∃ a template first value, Assignment.ofText text = .ok a ∧
        IsTarget (targetSetting text global context a) [] a.target template first ∧
        IsExpr OptionalPath (sourceSetting text global context a) first a.source value p.setup ∧
        p.assign = template.fill? value) ∧
      ∀ (f : Frame) bound w,
        (p.rescope (Scope.pinned global f.bound)).run { f with bound } w = p.run f w := by
  refine ⟨⟨?_, ?_⟩, fun p p' built built' => ⟨fun f w => ?_, ?_, fun f bound w => ?_⟩⟩
  · rintro ⟨p, built⟩
    exact ⟨_, build_rescope built global context'⟩
  · rintro ⟨p, built⟩
    exact ⟨_, build_rescope built global context⟩
  · have again := build_rescope built global context'
    rw [built'] at again
    cases again
    have alike (scope : Scope) : (scope.compiledFor global context).resolve f.bound =
        (scope.compiledFor global context').resolve f.bound := by
      rw [Scope.resolve_compiledFor, Scope.resolve_compiledFor]
    have same := run_rescope alike p w
    rwa [rescope_of_build built] at same
  · obtain ⟨a, template, first, value, cut, isTarget, isValue, filled, -⟩ := build_iff.1 built
    exact ⟨a, template, first, value, cut, isTarget, isValue, filled⟩
  · have alike (scope : Scope) : (scope.pinned global f.bound).resolve bound =
        (scope.compiledFor global context).resolve f.bound := by
      rw [Scope.resolve_compiledFor]
      rfl
    have same := run_rescope alike p w
    rwa [rescope_of_build built] at same

/-- What `x = $globals.y` compiles to for a context, with global data in context 0. -/
def copiesGlobal (context : Int) : Program :=
  ⟨[], some (.setProperty (.bound context) "x" (.get (.fixed 0) "y"))⟩

theorem build_copiesGlobal :
    (build 0 1 "x = $globals.y").result = .ok (copiesGlobal 1) := by
  have scanned : Token.scan "x = $globals.y" =
      [⟨.identifier, 0, "x"⟩, ⟨.assign, 2, "="⟩, ⟨.identifier, 4, "$globals"⟩, ⟨.dot, 12, "."⟩,
        ⟨.identifier, 13, "y"⟩, .eofAt 14] := by
    decide +kernel
  unfold build Assignment.ofText
  rw [Token.scanRaw, scanned]
  rfl

/-- A world with one datum, in context 0. -/
def worldWithGlobal : World :=
  { World.empty with store := ⟨⟨#[Fields.empty.put "y" (.bool true)]⟩, [(0, ⟨0⟩)]⟩ }

/-- Compiled for the contexts 1 and 2 and bound to the context 3, the binding copies from the context
0 to the context 3. -/
theorem copiesGlobal_context_unobserved :
    (build 0 1 "x = $globals.y").result = .ok (copiesGlobal 1) ∧
      (build 0 2 "x = $globals.y").result = .ok (copiesGlobal 2) ∧
      ∃ after, (copiesGlobal 1).run ⟨none, none, false, true, false, 3⟩ worldWithGlobal =
          (.ok (), after) ∧
        (copiesGlobal 2).run ⟨none, none, false, true, false, 3⟩ worldWithGlobal =
          (.ok (), after) ∧
        after.store.read 3 "x" = .bool true := by
  have other : (build 0 2 "x = $globals.y").result = .ok (copiesGlobal 2) :=
    build_rescope build_copiesGlobal 0 2
  have same := ((run_ignores_compile_context 0 "x = $globals.y" 1 2).2 _ _ build_copiesGlobal
    other).1 ⟨none, none, false, true, false, 3⟩ worldWithGlobal
  refine ⟨build_copiesGlobal, other, _, rfl, ?_, by rfl⟩
  rw [← same]
  rfl

end Binding

end PageBinding
