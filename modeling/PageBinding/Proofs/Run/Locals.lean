import PageBinding.Proofs.Run.Effect

/-!
Names in a run. The value of an expression depends only on the names that it uses, and statements that
give other names leave it as it is.
-/
namespace PageBinding

variable {w : World} {f : Frame} {locals next last : Locals}

/-- What a lookup gives a name to. -/
def Local.ofLookup (selector : RawText) (whole : Bool) : Option ElementRef → Local
  | some e => .value (.element e)
  | none => .unresolved selector whole

theorem Locals.get_cons_self (name : String) (x : Local) (locals : Locals) :
    Locals.get ((name, x) :: locals) name = match x with
      | .value v => .ok v
      | .unresolved selector whole => .error (.noElement selector whole) := by
  unfold Locals.get
  rw [List.lookup_cons_self]
  cases x <;> rfl

theorem Locals.get_cons_ne {name given : String} (x : Local) (locals : Locals) (ne : given ≠ name) :
    Locals.get ((given, x) :: locals) name = locals.get name := by
  have differs : (name == given) = false := beq_eq_false_iff_ne.2 ne.symm
  unfold Locals.get
  rw [List.lookup_cons, differs]

/-! ## Setup statements in sequence -/

theorem Scoped.apart {start : Nat} {a b : List Stmt} (h : Scoped start (a ++ b)) :
    ∀ name ∈ namesOf a, name ∉ namesOf b := by
  have nodup := h.nodup
  rw [namesOf_append] at nodup
  exact fun name mem mem' => (List.nodup_append.1 nodup).2.2 name mem name mem' rfl

namespace Stmt

theorem namedAll_bind (a b : List Stmt) :
    namedAll w f locals (a ++ b) = namedAll w f locals a >>= fun next => namedAll w f next b := by
  induction a generalizing locals with
  | nil => rfl
  | cons st rest ih =>
    rw [List.cons_append, namedAll, namedAll]
    cases st.named w f locals with
    | error e => rfl
    | ok next => exact ih

theorem namedAll_append {a b : List Stmt} :
    namedAll w f locals (a ++ b) = .ok last ↔
      ∃ next, namedAll w f locals a = .ok next ∧ namedAll w f next b = .ok last := by
  rw [namedAll_bind, except_bind_ok]

theorem namedAll_singleton (st : Stmt) : namedAll w f locals [st] = st.named w f locals := by
  rw [namedAll]
  cases st.named w f locals <;> rfl

theorem named_declare {name : String} {value : Expr} :
    (declare name value).named w f locals = .ok last ↔
      ∃ v, value.eval w f locals = .ok v ∧ last = (name, .value v) :: locals := by
  rw [named]
  cases value.eval w f locals with
  | error e => simp
  | ok v => simp [eq_comm]

theorem named_lookup {name : String} {selector : RawText} {whole : Bool} :
    (lookup name selector whole).named w f locals = .ok last ↔
      ∃ found, w.find f selector whole = .ok found ∧
        last = (name, .ofLookup selector whole found) :: locals := by
  rw [named]
  cases w.find f selector whole with
  | error e => simp
  | ok found => cases found <;> simp [Local.ofLookup, eq_comm]

theorem named_get {st : Stmt} {name : String} (h : st.named w f locals = .ok next)
    (other : st.name? ≠ some name) : next.get name = locals.get name := by
  cases st with
  | lookup given selector whole =>
    obtain ⟨found, -, rfl⟩ := named_lookup.1 h
    exact Locals.get_cons_ne _ _ fun same => other (congrArg some same)
  | declare given value =>
    obtain ⟨v, -, rfl⟩ := named_declare.1 h
    exact Locals.get_cons_ne _ _ fun same => other (congrArg some same)
  | setProperty scope path value => cases h; rfl
  | setAttr x attr value => cases h; rfl
  | setMember x member value => cases h; rfl

/-- Statements leave the names that they do not give. -/
theorem namedAll_get {setup : List Stmt} {name : String} (h : namedAll w f locals setup = .ok last)
    (other : name ∉ namesOf setup) : last.get name = locals.get name := by
  induction setup generalizing locals with
  | nil =>
    cases h
    rfl
  | cons st rest ih =>
    rw [namedAll] at h
    cases step : st.named w f locals with
    | error e =>
      rw [step] at h
      cases h
    | ok next =>
      rw [step] at h
      have notFirst : st.name? ≠ some name := by
        intro same
        exact other (List.mem_filterMap.2 ⟨st, List.mem_cons_self, same⟩)
      have notLater : name ∉ namesOf rest := by
        intro mem
        obtain ⟨st', within, same⟩ := List.mem_filterMap.1 mem
        exact other (List.mem_filterMap.2 ⟨st', List.mem_cons_of_mem st within, same⟩)
      rw [ih h notLater, named_get step notFirst]

end Stmt

theorem execAll_of_named {setup : List Stmt}
    (areNames : ∀ st ∈ setup, st.name?.isSome = true)
    (named : Stmt.namedAll w f locals setup = .ok last) :
    Program.execAll f setup ⟨w, locals⟩ = .ok () ⟨w, last⟩ := by
  obtain ⟨last', named', ran⟩ | ⟨e, last', failed, -⟩ := execAll_named areNames (w := w) (f := f) locals
  · rw [named] at named'
    cases named'
    exact ran
  · rw [named] at failed
    cases failed

/-! ## Values -/

namespace Expr

mutual

/-- Evaluation looks only at the names in an expression. -/
theorem eval_congr : (x : Expr) → (∀ name, var name ∈ x.parts → locals.get name = last.get name) →
    x.eval w f locals = x.eval w f last
  | lit _ _, _ | event, _ | target, _ | element, _ | get _ _, _ | placeholder, _ => by simp only [eval]
  | var name, same => same name (by simp [parts])
  | attr x _, same | member x _, same | unary _ x, same => by
    rw [eval, eval, eval_congr x fun name mem => same name (by simp [parts, mem])]
  | paren x, same => by
    rw [eval, eval, eval_congr x fun name mem => same name (by simp [parts, mem])]
  | index x i, same => by
    rw [eval, eval, eval_congr x fun name mem => same name (by simp [parts, mem]),
      eval_congr i fun name mem => same name (by simp [parts, mem])]
  | call x _ args, same => by
    rw [eval, eval, eval_congr x fun name mem => same name (by simp [parts, mem]),
      evalAll_congr args fun name mem => same name (by simp [parts, mem])]
  | binary _ l r, same => by
    rw [eval, eval, eval_congr l fun name mem => same name (by simp [parts, mem]),
      eval_congr r fun name mem => same name (by simp [parts, mem])]
  | cond c t e, same => by
    rw [eval, eval, eval_congr c fun name mem => same name (by simp [parts, mem]),
      eval_congr t fun name mem => same name (by simp [parts, mem]),
      eval_congr e fun name mem => same name (by simp [parts, mem])]

theorem evalAll_congr : (xs : List Expr) →
    (∀ name, var name ∈ partsAll xs → locals.get name = last.get name) →
    evalAll w f locals xs = evalAll w f last xs
  | [], _ => by rw [evalAll, evalAll]
  | x :: xs, same => by
    rw [evalAll, evalAll, eval_congr x fun name mem => same name (by simp [partsAll, mem]),
      evalAll_congr xs fun name mem => same name (by simp [partsAll, mem])]

end

/-- Statements that give other names leave the value of an expression. -/
theorem eval_after {names : List String} {setup : List Stmt} {x : Expr} (uses : Uses names x.parts)
    (apart : ∀ name ∈ names, name ∉ namesOf setup)
    (named : Stmt.namedAll w f locals setup = .ok last) : x.eval w f last = x.eval w f locals :=
  eval_congr x fun name mem => Stmt.namedAll_get named (apart name (uses.1 name mem))

end Expr

end PageBinding
