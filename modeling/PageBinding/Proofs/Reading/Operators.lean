import PageBinding.Proofs.Reading.Scoping

/-!
The operators of compiled programs have a meaning. The parser looks for an operator among those that
have a precedence or stand before an operand, and these are the ones that can be applied.
-/
namespace PageBinding

/-! ## Known operators -/

/-- Whether an expression does not apply an operator that has no meaning. -/
def Expr.isKnown : Expr → Bool
  | unary (.unknown _) _ => false
  | binary (.unknown _) _ _ => false
  | _ => true

/-- Expressions all of whose operators have a meaning. -/
def Expr.Known (parts : List Expr) : Prop :=
  ∀ x ∈ parts, x.isKnown = true

namespace Expr

variable {x : Expr} {xs ys : List Expr}

@[simp]
theorem known_nil : Known [] := nofun

@[simp]
theorem known_cons : Known (x :: xs) ↔ x.isKnown = true ∧ Known xs :=
  List.forall_mem_cons

@[simp]
theorem known_append : Known (xs ++ ys) ↔ Known xs ∧ Known ys :=
  List.forall_mem_append

theorem known_memberPath (path : String) (h : Known x.parts) :
    Known (Binding.memberPath x path).parts := by
  unfold Binding.memberPath
  induction Store.keys path generalizing x with
  | nil => exact h
  | cons key keys ih =>
    apply ih
    simpa [parts, isKnown] using h

end Expr

/-! ## What is read -/

namespace Binding

variable {s : Setting} {marker : MarkerRule}

theorem known_of_binaryOp {t : Token} {op : BinaryOp} {level : Nat} (l r : Expr)
    (found : binaryOp? t = some (op, level)) : (Expr.binary op l r).isKnown = true := by
  unfold binaryOp? at found
  split at found
  · obtain ⟨q, hasLevel, same⟩ := Option.map_eq_some_iff.1 found
    cases same
    cases isOp : BinaryOp.ofSpelling t.text with
    | unknown spelling =>
      rw [isOp] at hasLevel
      cases hasLevel
    | _ => rfl
  · cases found

theorem known_of_unaryOp {t : Token} {op : UnaryOp} (x : Expr) (found : unaryOp? t = some op) :
    (Expr.unary op x).isKnown = true := by
  unfold unaryOp? at found
  split at found
  · cases isOp : UnaryOp.ofSpelling t.text with
    | unknown spelling =>
      rw [isOp] at found
      cases found
    | _ =>
      rw [isOp] at found
      cases found
      rfl
  · cases found

theorem known_of_namedValue {name : String} {x : Expr} (found : namedValue? name = some x) :
    Expr.Known x.parts := by
  unfold namedValue? at found
  repeat' split at found
  all_goals cases found
  all_goals simp [Expr.parts, Expr.isKnown]

/-- Setup statements and an expression, all of whose operators have a meaning. -/
def AllKnown (setup : List Stmt) (parts : List Expr) : Prop :=
  (∀ st ∈ setup, Expr.Known st.parts) ∧ Expr.Known parts

theorem located_known {a : List Stmt} (before : ∀ st ∈ a, Expr.Known st.parts) (locator : Locator) :
    AllKnown (located a locator).2 (located a locator).1.parts := by
  cases locator with
  | self => exact ⟨before, by simp [located, Expr.parts, Expr.isKnown]⟩
  | find selector whole =>
    refine ⟨List.forall_mem_append.2 ⟨before, List.forall_mem_singleton.2 ?_⟩, ?_⟩
    · simp [Stmt.parts]
    · simp [located, Expr.parts, Expr.isKnown]

theorem accessed_known {a : List Stmt} (before : ∀ st ∈ a, Expr.Known st.parts) (side : Side)
    (found : Accessor) : AllKnown (accessed side a found).2 (accessed side a found).1.parts := by
  obtain ⟨setup, element⟩ := located_known before found.element
  unfold accessed
  split
  · refine ⟨List.forall_mem_append.2 ⟨setup, List.forall_mem_singleton.2 ?_⟩, ?_⟩
    · simpa [Stmt.parts, Expr.parts, Expr.isKnown] using element
    · simp [Expr.parts, Expr.isKnown]
  · refine ⟨List.forall_mem_append.2 ⟨setup, List.forall_mem_singleton.2 ?_⟩, ?_⟩
    · exact Expr.known_memberPath _ element
    · simp [Expr.parts, Expr.isKnown]

mutual

/-- The operators that are read have a meaning. -/
theorem IsExpr.known {a b : List Stmt} {ts : List Token} {x : Expr} :
    IsExpr marker s a ts x b → (∀ st ∈ a, Expr.Known st.parts) → AllKnown b x.parts
  | .plain h, before => h.known before
  | .cond c _ t _ e, before => by
    obtain ⟨before, first⟩ := c.known before
    obtain ⟨before, second⟩ := t.known before
    obtain ⟨after, third⟩ := e.known before
    exact ⟨after, by simp [Expr.parts, Expr.isKnown, first, second, third]⟩

theorem IsBinary.known {least : Nat} {a b : List Stmt} {ts : List Token} {x : Expr} :
    IsBinary marker s least a ts x b → (∀ st ∈ a, Expr.Known st.parts) → AllKnown b x.parts
  | .operand h, before => h.known before
  | .apply left found _ right, before => by
    obtain ⟨before, first⟩ := left.known before
    obtain ⟨after, second⟩ := right.known before
    exact ⟨after, by simp [Expr.parts, known_of_binaryOp _ _ found, first, second]⟩

theorem IsUnary.known {a b : List Stmt} {ts : List Token} {x : Expr} :
    IsUnary marker s a ts x b → (∀ st ∈ a, Expr.Known st.parts) → AllKnown b x.parts
  | .operand h, before => h.known before
  | .apply found h, before => by
    obtain ⟨after, operand⟩ := h.known before
    exact ⟨after, by simp [Expr.parts, known_of_unaryOp _ found, operand]⟩

theorem IsOperand.known {f : Follow} {a b : List Stmt} {ts : List Token} {x : Expr} :
    IsOperand marker s f a ts x b → (∀ st ∈ a, Expr.Known st.parts) → AllKnown b x.parts
  | .number _ _, before => ⟨before, by simp [Expr.parts, Expr.isKnown]⟩
  | .string _ _, before => ⟨before, by simp [Expr.parts, Expr.isKnown]⟩
  | .paren _ h _, before => by
    obtain ⟨after, inner⟩ := h.known before
    exact ⟨after, by simp [Expr.parts, Expr.isKnown, inner]⟩
  | .named _ found, before => ⟨before, known_of_namedValue found⟩
  | .access _ _ _ _, before => accessed_known before _ _
  | .global _ _ _ _, before => ⟨before, by simp [Expr.parts, Expr.isKnown]⟩
  | .path _ _, before => ⟨before, by simp [Expr.parts, Expr.isKnown]⟩
  | .method _ _ _ _ args, before => by
    obtain ⟨after, items⟩ := args.known before
    exact ⟨after, by simp [Expr.parts, Expr.isKnown, items]⟩
  | .member h _ _, before => by
    obtain ⟨after, owner⟩ := h.known before
    exact ⟨after, by simp [Expr.parts, Expr.isKnown, owner]⟩
  | .call h _ _ _ args, before => by
    obtain ⟨before, owner⟩ := h.known before
    obtain ⟨after, items⟩ := args.known before
    exact ⟨after, by simp [Expr.parts, Expr.isKnown, owner, items]⟩
  | .index h _ i _, before => by
    obtain ⟨before, owner⟩ := h.known before
    obtain ⟨after, position⟩ := i.known before
    exact ⟨after, by simp [Expr.parts, Expr.isKnown, owner, position]⟩

theorem IsArgs.known {a b : List Stmt} {ts : List Token} {xs : List Expr} :
    IsArgs marker s a ts xs b → (∀ st ∈ a, Expr.Known st.parts) → AllKnown b (Expr.partsAll xs)
  | .none _ _, before => ⟨before, by simp [Expr.partsAll]⟩
  | .some _ h, before => h.known before

theorem IsItems.known {a b : List Stmt} {ts : List Token} {xs : List Expr} :
    IsItems marker s a ts xs b → (∀ st ∈ a, Expr.Known st.parts) → AllKnown b (Expr.partsAll xs)
  | .last h _, before => by
    obtain ⟨after, only⟩ := h.known before
    exact ⟨after, by simp [Expr.partsAll, only]⟩
  | .more h _ tail, before => by
    obtain ⟨before, first⟩ := h.known before
    obtain ⟨after, rest⟩ := tail.known before
    exact ⟨after, by simp [Expr.partsAll, first, rest]⟩

end

theorem known_setMemberPath {x : Expr} (path : String) (h : Expr.Known x.parts) :
    Expr.Known (setMemberPath x path .placeholder).parts := by
  have known := Expr.known_memberPath path h
  unfold setMemberPath
  split
  · rename_i y name shape
    rw [shape] at known
    simpa [Stmt.parts, Expr.parts, Expr.isKnown] using known
  · simpa [Stmt.parts, Expr.parts, Expr.isKnown] using known

theorem IsTarget.known {a b : List Stmt} {ts : List Token} {st : Stmt} (h : IsTarget s a ts st b)
    (before : ∀ st ∈ a, Expr.Known st.parts) : AllKnown b st.parts := by
  cases h with
  | @attr _ _ found side read =>
    obtain ⟨after, element⟩ := located_known before found.element
    exact ⟨after, by simpa [Stmt.parts, Expr.parts, Expr.isKnown] using element⟩
  | @prop _ _ found side read =>
    obtain ⟨after, element⟩ := located_known before found.element
    exact ⟨after, known_setMemberPath _ element⟩
  | global => exact ⟨before, by simp [Stmt.parts, Expr.parts, Expr.isKnown]⟩
  | data => exact ⟨before, by simp [Stmt.parts, Expr.parts, Expr.isKnown]⟩

end Binding

end PageBinding
