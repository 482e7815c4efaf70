import PageBinding.Proofs.Reading.Derived

/-!
The values of bindings are those that the grammar derives, and each has one derivation's worth of
meaning: reading a side and deriving it are the same relation.

After a marker of the global data the path may be missing even where there is a dot. A grammar that
asks for a path after each dot derives no side that ends in one, though such a side is read.
-/
namespace PageBinding.Binding

variable {s : Setting}

theorem source_ok {p q : Progress} {x : Expr} :
    source s p = .ok x q ↔
      expr s (fuelFor p.rest.length) p = .ok x q ∧ (nextToken s.stop q.rest).kind = .eof := by
  unfold source
  rw [get_bind, bind_ok]
  constructor
  · rintro ⟨y, r, read, rest⟩
    rw [bind_ok] at rest
    obtain ⟨u, r', ended, last⟩ := rest
    rw [expectEnd_ok] at ended
    rw [pure_ok] at last
    obtain ⟨ended, rfl⟩ := ended
    obtain ⟨rfl, rfl⟩ := last
    exact ⟨read, ended⟩
  · rintro ⟨read, ended⟩
    have last : expectEnd s "value" q = .ok () q := expectEnd_ok.2 ⟨ended, rfl⟩
    exact ⟨x, q, read, bind_of_ok last _⟩

/-- A side without an end inside it is at its end only when no token is left. -/
theorem nil_of_eof {toks : List Token} {stop : Nat} (whole : ∀ t ∈ toks, t.kind ≠ .eof)
    (ended : (nextToken stop toks).kind = .eof) : toks = [] := by
  cases toks with
  | nil => rfl
  | cons t rest => exact absurd ended (whole t List.mem_cons_self)

theorem source_sound {p q : Progress} {x : Expr} (whole : ∀ t ∈ p.rest, t.kind ≠ .eof)
    (h : source s p = .ok x q) : IsExpr OptionalPath s p.setup p.rest x q.setup := by
  obtain ⟨read, ended⟩ := source_ok.1 h
  obtain ⟨ts, shape, derived, -⟩ := (sound s _).expr read
  have done : q.rest = [] := by
    refine nil_of_eof (fun t mem => whole t ?_) ended
    rw [shape]
    exact List.mem_append_right ts mem
  rw [shape, done, List.append_nil]
  exact derived

theorem source_complete {toks : List Token} {a b : List Stmt} {x : Expr}
    (h : IsExpr OptionalPath s a toks x b) (w : List Nat) :
    ∃ w', source s ⟨toks, a, w⟩ = .ok x ⟨[], b, w'⟩ := by
  have closes : ClosesExpr (nextToken s.stop []) :=
    ⟨closes_of_kind 1 (by simp), by simp⟩
  obtain ⟨w', read⟩ := h.reads [] w (fuelFor toks.length) closes (by simp [Apart])
    (by unfold fuelFor; omega)
  rw [List.append_nil] at read
  exact ⟨w', source_ok.2 ⟨read, rfl⟩⟩

/-- A side is read as a value exactly when the grammar derives that value from all its tokens, and
the grammar derives no other. -/
theorem read_value_iff_derived (s : Setting) (toks : List Token) (a : List Stmt) (w : List Nat)
    (whole : ∀ t ∈ toks, t.kind ≠ .eof) :
    (∀ x b, (∃ q, source s ⟨toks, a, w⟩ = .ok x q ∧ q.setup = b) ↔
      IsExpr OptionalPath s a toks x b) ∧
    (∀ x b y c, IsExpr OptionalPath s a toks x b → IsExpr OptionalPath s a toks y c →
      x = y ∧ b = c) := by
  constructor
  · intro x b
    constructor
    · rintro ⟨q, read, rfl⟩
      exact source_sound whole read
    · intro h
      obtain ⟨w', read⟩ := source_complete h w
      exact ⟨_, read, rfl⟩
  · intro x b y c first second
    obtain ⟨_, read⟩ := source_complete first w
    obtain ⟨_, read'⟩ := source_complete second w
    rw [read] at read'
    cases read'
    exact ⟨rfl, rfl⟩

/-- `$globals.user.name.trim() == a.b ? $event : !c[$target]`, token by token. -/
def sampleValue : List Token :=
  [⟨.identifier, 0, "$globals"⟩, ⟨.dot, 8, "."⟩, ⟨.identifier, 9, "user"⟩, ⟨.dot, 13, "."⟩,
    ⟨.identifier, 14, "name"⟩, ⟨.dot, 18, "."⟩, ⟨.identifier, 19, "trim"⟩, ⟨.leftParen, 23, "("⟩,
    ⟨.rightParen, 24, ")"⟩, ⟨.operator, 26, "=="⟩, ⟨.identifier, 29, "a"⟩, ⟨.dot, 30, "."⟩,
    ⟨.identifier, 31, "b"⟩, ⟨.question, 33, "?"⟩, ⟨.identifier, 35, "$event"⟩, ⟨.colon, 42, ":"⟩,
    ⟨.operator, 44, "!"⟩, ⟨.identifier, 45, "c"⟩, ⟨.leftBrack, 46, "["⟩,
    ⟨.identifier, 47, "$target"⟩, ⟨.rightBrack, 54, "]"⟩]

theorem sampleValue_derived :
    (∀ t ∈ sampleValue, t.kind ≠ .eof) ∧
      IsExpr OptionalPath ⟨"", 1, 0, .global, 55⟩ [] sampleValue
        (.cond
          (.binary .looseEq (.call (.get (.fixed 0) "user.name") "trim" [])
            (.get (.bound 1) "a.b"))
          .event (.unary .not (.index (.get (.bound 1) "c") .target))) [] :=
  ⟨by decide, ((read_value_iff_derived ⟨"", 1, 0, .global, 55⟩ sampleValue [] [] (by decide)).1 _ _).1
    ⟨_, rfl, rfl⟩⟩

/-! ## Paths that are missing -/

/-- Tokens of which the last is no dot. -/
def EndsWhole (ts : List Token) : Prop :=
  ∃ us t, ts = us ++ [t] ∧ t.kind ≠ .dot

theorem EndsWhole.singleton {t : Token} (h : t.kind ≠ .dot) : EndsWhole [t] :=
  ⟨[], t, rfl, h⟩

theorem EndsWhole.append {ts : List Token} (us : List Token) (h : EndsWhole ts) :
    EndsWhole (us ++ ts) := by
  obtain ⟨vs, t, rfl, kind⟩ := h
  exact ⟨us ++ vs, t, by rw [List.append_assoc], kind⟩

theorem EndsWhole.cons {ts : List Token} (u : Token) (h : EndsWhole ts) : EndsWhole (u :: ts) :=
  h.append [u]

theorem EndsWhole.closed {ts : List Token} {t : Token} (h : t.kind ≠ .dot) : EndsWhole (ts ++ [t]) :=
  ⟨ts, t, rfl, h⟩

theorem IsPath.endsWhole {ts : List Token} {names : List String} (h : IsPath ts names) :
    EndsWhole ts := by
  induction h with
  | last name => exact .singleton (by simp [name.1])
  | more name isDot path ih => exact (ih.cons _).cons _

mutual

theorem IsExpr.endsWhole (global : s.side = .global) {a b : List Stmt} {ts : List Token} {x : Expr} :
    IsExpr DottedPath s a ts x b → EndsWhole ts
  | .plain h => h.endsWhole global
  | .cond _ _ _ _ last => (((last.endsWhole global).cons _).append _ |>.cons _).append _

theorem IsBinary.endsWhole (global : s.side = .global) {least : Nat} {a b : List Stmt}
    {ts : List Token} {x : Expr} : IsBinary DottedPath s least a ts x b → EndsWhole ts
  | .operand h => h.endsWhole global
  | .apply _ _ _ right => ((right.endsWhole global).cons _).append _

theorem IsUnary.endsWhole (global : s.side = .global) {a b : List Stmt} {ts : List Token}
    {x : Expr} : IsUnary DottedPath s a ts x b → EndsWhole ts
  | .operand h => h.endsWhole global
  | .apply _ h => (h.endsWhole global).cons _

theorem IsOperand.endsWhole (global : s.side = .global) {f : Follow} {a b : List Stmt}
    {ts : List Token} {x : Expr} : IsOperand DottedPath s f a ts x b → EndsWhole ts
  | .number kind _ => .singleton (by simp [kind])
  | .string kind _ => .singleton (by simp [kind])
  | .paren _ _ isRight => (EndsWhole.closed (by simp [isRight])).cons _
  | .named kind _ => .singleton (by simp [kind])
  | .access _ _ side _ => by
      rw [global] at side
      unfold markerSide at side
      split at side <;> cases side
  | .global kind _ _ h => by
      cases h with
      | none => exact .singleton (by simp [kind])
      | path isDot h => exact (h.endsWhole.cons _).cons _
  | .path h _ => h.endsWhole
  | .method _ _ _ _ arguments =>
      (((arguments.endsWhole global).cons _).cons _ |>.append _).cons _
  | .member _ _ isName => .append _ (.cons _ (.singleton (by simp [isName.1])))
  | .call _ _ _ _ arguments => (((arguments.endsWhole global).cons _).cons _).append _
  | .index _ _ _ isRight => .append _ (.cons _ (.closed (by simp [isRight])))

theorem IsArgs.endsWhole (global : s.side = .global) {a b : List Stmt} {ts : List Token}
    {xs : List Expr} : IsArgs DottedPath s a ts xs b → EndsWhole ts
  | .none _ isRight => .cons _ (.singleton (by simp [isRight]))
  | .some _ h => (h.endsWhole global).cons _

theorem IsItems.endsWhole (global : s.side = .global) {a b : List Stmt} {ts : List Token}
    {xs : List Expr} : IsItems DottedPath s a ts xs b → EndsWhole ts
  | .last _ isRight => .closed (by simp [isRight])
  | .more _ _ tail => ((tail.endsWhole global).cons _).append _

end

/-- With a path after each dot, `$globals.` would not be derived; it is read all the same. -/
theorem marker_with_dot_read_not_derived :
    let s : Setting := ⟨"x = $globals.", 1, 0, .global, 13⟩
    let toks : List Token := [⟨.identifier, 4, "$globals"⟩, ⟨.dot, 12, "."⟩]
    (∃ q, source s ⟨toks, [], []⟩ = .ok (.get (.fixed 0) "") q ∧ q.setup = []) ∧
      ¬ IsExpr DottedPath s [] toks (.get (.fixed 0) "") [] := by
  refine ⟨⟨_, rfl, rfl⟩, fun h => ?_⟩
  obtain ⟨us, t, shape, kind⟩ := h.endsWhole rfl
  have last := congrArg List.getLast? shape
  rw [List.getLast?_concat] at last
  cases last
  exact kind rfl

end PageBinding.Binding
