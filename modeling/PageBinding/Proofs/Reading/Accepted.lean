import PageBinding.Proofs.Reading.Grammar

/-!
What is read is derived: a reader of values takes tokens off the head of a side, and those tokens
derive what it returns. It also stops only where the grammar could not go on, which is what makes
the next production apply.
-/
namespace PageBinding.Binding

variable {s : Setting} {stop : Nat}

/-! ## Paths -/

theorem segment_ok {t : Token} {name : String} :
    segment t = .ok name ↔ t.text ≠ reserved ∧ name = t.text := by
  unfold segment
  split
  · rename_i same
    simp [same]
  · rename_i other
    simp [other, eq_comm]

theorem pathTail_sound {toks rest : List Token} {names : List String}
    (h : pathTail stop toks = .ok (names, rest)) :
    ∃ ts, toks = ts ++ rest ∧ (∀ t, IsName t → IsPath (t :: ts) (t.text :: names)) ∧
      (nextToken stop rest).kind ≠ .dot := by
  fun_induction pathTail stop toks generalizing names rest with
  | case1 dot t more isDot isName e failed => cases h
  | case2 dot t more isDot isName name found e failed ih => cases h
  | case3 dot t more isDot isName name found names' rest' read ih =>
    cases h
    obtain ⟨ts, shape, derived, stops⟩ := ih read
    obtain ⟨free, rfl⟩ := segment_ok.1 found
    refine ⟨dot :: t :: ts, by rw [shape]; rfl, ?_, stops⟩
    intro u name
    exact .more name isDot (derived t ⟨isName, free⟩)
  | case4 dot t more isDot other => cases h
  | case5 dot t more other =>
    cases h
    exact ⟨[], rfl, fun u name => .last name, other⟩
  | case6 t isDot => cases h
  | case7 t other =>
    cases h
    exact ⟨[], rfl, fun u name => .last name, other⟩
  | case8 =>
    cases h
    exact ⟨[], rfl, fun u name => .last name, by simp⟩

theorem path_sound {toks rest : List Token} {names : List String}
    (h : path stop toks = .ok (names, rest)) :
    ∃ ts, toks = ts ++ rest ∧ IsPath ts names ∧ (nextToken stop rest).kind ≠ .dot := by
  unfold path at h
  split at h
  · cases h
  · rename_i t more
    split at h
    · rename_i isName
      split at h
      · cases h
      · rename_i name found
        obtain ⟨free, rfl⟩ := segment_ok.1 found
        split at h
        · cases h
        · rename_i names' rest' read
          cases h
          obtain ⟨ts, shape, derived, stops⟩ := pathTail_sound read
          exact ⟨t :: ts, by rw [shape]; rfl, derived t ⟨isName, free⟩, stops⟩
    · cases h

theorem IsPath.length {ts : List Token} {names : List String} (h : IsPath ts names) :
    ts.length = 2 * names.length - 1 ∧ 0 < names.length := by
  induction h with
  | last name => simp
  | more name dot path ih =>
    simp only [List.length_cons]
    omega

theorem IsPath.head {ts : List Token} {names : List String} (h : IsPath ts names) :
    ∃ t us tail, ts = t :: us ∧ names = t.text :: tail ∧ IsName t := by
  cases h with
  | last name => exact ⟨_, [], [], rfl, rfl, name⟩
  | more name dot path => exact ⟨_, _, _, rfl, rfl, name⟩

/-- A path of two names or more ends in a dot and a name. -/
theorem IsPath.split_last {ts : List Token} {names : List String} (h : IsPath ts names)
    (long : names.length ≠ 1) :
    ∃ ts' dot name, ts = ts' ++ [dot, name] ∧ IsPath ts' names.dropLast ∧ dot.kind = .dot ∧
      IsName name ∧ names.getLast?.getD "" = name.text := by
  induction h with
  | last name => simp at long
  | @more t dot ts names name isDot path ih =>
    by_cases short : names.length = 1
    · cases path with
      | @last u last =>
        exact ⟨[t], dot, u, rfl, .last name, isDot, last, rfl⟩
      | more _ _ more =>
        have := more.length.2
        simp only [List.length_cons] at short
        omega
    · obtain ⟨ts', dot', last, rfl, path', isDot', isName', text⟩ := ih short
      have some : names ≠ [] := List.ne_nil_of_length_pos path.length.2
      refine ⟨t :: dot :: ts', dot', last, rfl, ?_, isDot', isName', ?_⟩
      · rw [List.dropLast_cons_of_ne_nil some]
        exact .more name isDot path'
      · rw [← text, List.getLast?_cons_of_ne_nil some]

/-- What may be left after an operand that goes on as given. -/
def Fits (stop : Nat) : Follow → List Token → Prop
  | .all, _ => True
  | .method, rest => (nextToken stop rest).kind = .dot →
      ∃ dot name paren rest', rest = dot :: name :: paren :: rest' ∧ IsName name ∧
        paren.kind = .leftParen
  | .index, rest => (nextToken stop rest).kind ≠ .dot

theorem globalPath_sound {toks rest : List Token} {path : String}
    (h : globalPath stop toks = .ok (path, rest)) :
    ∃ ts f, toks = ts ++ rest ∧ OptionalPath ts path f ∧ Fits stop f rest := by
  unfold globalPath at h
  split at h
  · rename_i dot more
    split at h
    · rename_i isDot
      split at h
      · split at h
        · cases h
        · rename_i names after read
          obtain ⟨ts, rfl, derived, stops⟩ := path_sound read
          split at h
          · -- the last name is a method and stays with its dot
            rename_i method
            simp only [Bool.and_eq_true, decide_eq_true_eq] at method
            obtain ⟨ts', dot', name, rfl, path', isDot', isName, -⟩ :=
              derived.split_last (by omega)
            obtain ⟨paren, rest', rfl, isParen⟩ := rest_of_nextToken method.1 (by decide)
            have kept : ts'.length = 2 * names.length - 3 := by
              have := path'.length
              rw [List.length_dropLast] at this
              omega
            rw [← kept, List.append_assoc, List.drop_left] at h
            cases h
            refine ⟨dot :: ts', .method, by simp, .dotted (.path isDot path'), ?_⟩
            intro _
            exact ⟨dot', name, paren, rest', rfl, isName, isParen⟩
          · cases h
            exact ⟨dot :: ts, .method, rfl, .dotted (.path isDot derived),
              fun isDot' => absurd isDot' stops⟩
      · cases h
        exact ⟨[dot], .all, rfl, .missing isDot, trivial⟩
    · rename_i other
      cases h
      exact ⟨[], .index, rfl, .dotted .none, other⟩
  · cases h
    exact ⟨[], .index, rfl, .dotted .none, by simp [Fits]⟩

/-! ## Accessors -/

theorem arguments_sound {fn : String} {start : Token} {depth : Nat} {current toks rest : List Token}
    {args : List (List Token)} (h : arguments fn start depth current toks = .ok (args, rest)) :
    ∃ ts, toks = ts ++ rest ∧
      ∀ rest', arguments fn start depth current (ts ++ rest') = .ok (args, rest') := by
  fun_induction arguments fn start depth current toks generalizing args rest with
  | case1 => cases h
  | case2 depth current t more opens ih =>
    obtain ⟨ts, rfl, again⟩ := ih h
    refine ⟨t :: ts, rfl, fun rest' => ?_⟩
    rw [List.cons_append, arguments, if_pos opens]
    exact again rest'
  | case3 depth current t more opens closes inside ih =>
    obtain ⟨ts, rfl, again⟩ := ih h
    refine ⟨t :: ts, rfl, fun rest' => ?_⟩
    rw [List.cons_append, arguments, if_neg opens, if_pos closes, if_pos inside]
    exact again rest'
  | case4 => cases h
  | case5 depth current t more opens closes outside bracket =>
    cases h
    refine ⟨[t], rfl, fun rest' => ?_⟩
    rw [List.singleton_append, arguments, if_neg opens, if_pos closes, if_neg outside,
      if_neg bracket]
  | case6 => cases h
  | case7 depth current t more opens closes comma args' rest' read ih =>
    cases h
    obtain ⟨ts, rfl, again⟩ := ih read
    refine ⟨t :: ts, rfl, fun rest' => ?_⟩
    rw [List.cons_append, arguments, if_neg opens, if_neg closes, if_pos comma, again]
  | case8 depth current t more opens closes other ih =>
    obtain ⟨ts, rfl, again⟩ := ih h
    refine ⟨t :: ts, rfl, fun rest' => ?_⟩
    rw [List.cons_append, arguments, if_neg opens, if_neg closes, if_neg other]
    exact again rest'

theorem accessor_opens {text : RawText} {fn : String} {t : Token} {rest : List Token} {r : Accessor × List Token}
    (h : accessor text fn stop (t :: rest) = .ok r) : (nextToken stop rest).kind = .leftParen := by
  simp only [accessor] at h
  split at h
  · split at h
    · assumption
    · cases h
  · cases h

/-- An accessor is read the same whatever follows it. -/
theorem accessor_sound {text : RawText} {fn : String} {t : Token} {toks rest : List Token} {a : Accessor}
    (h : accessor text fn stop (t :: toks) = .ok (a, rest)) :
    ∃ ts, toks = ts ++ rest ∧
      ∀ rest', accessor text fn stop (t :: (ts ++ rest')) = .ok (a, rest') := by
  simp only [accessor] at h ⊢
  split at h
  · rename_i isFn
    split at h
    · rename_i isParen
      obtain ⟨paren, more, rfl, kept⟩ := rest_of_nextToken isParen (by decide)
      split at h
      · cases h
      · rename_i args rest'' read
        obtain ⟨ts, shape, again⟩ := arguments_sound read
        rw [List.drop_succ_cons, List.drop_zero] at shape
        subst shape
        split at h
        · cases h
        · rename_i found
          cases h
          refine ⟨paren :: ts, rfl, fun rest' => ?_⟩
          rw [if_pos isFn, List.cons_append, nextToken_cons, if_pos kept, List.drop_succ_cons,
            List.drop_zero, again]
          simp only [found]
    · cases h
  · cases h

/-! ## Where readers stop -/

/-- A token that does not go on an operand. -/
def ClosesOperand (t : Token) : Prop :=
  t.kind ≠ .dot ∧ t.kind ≠ .leftBrack ∧ t.kind ≠ .leftParen

/-- A token that goes on neither an operand nor operands joined by operators of a level. -/
def Closes (least : Nat) (t : Token) : Prop :=
  ClosesOperand t ∧ ∀ op level, binaryOp? t = some (op, level) → level < least

/-- A token that does not go on an expression. -/
def ClosesExpr (t : Token) : Prop :=
  Closes 1 t ∧ t.kind ≠ .question

theorem IsBinary.weaken {marker : MarkerRule} {least level : Nat} {a b : List Stmt}
    {ts : List Token} {x : Expr} (h : IsBinary marker s level a ts x b) (le : least ≤ level) :
    IsBinary marker s least a ts x b := by
  cases h with
  | operand unary => exact .operand unary
  | apply left op least' right => exact .apply left op (Nat.le_trans le least') right

theorem kind_of_binaryOp {t : Token} {joint : BinaryOp × Nat} (h : binaryOp? t = some joint) :
    t.kind = .operator := by
  unfold binaryOp? at h
  split at h
  · assumption
  · cases h

theorem kind_of_unaryOp {t : Token} {op : UnaryOp} (h : unaryOp? t = some op) :
    t.kind = .operator := by
  unfold unaryOp? at h
  split at h
  · assumption
  · cases h

/-! ## Values -/

/-- The readers with a given fuel return only what the grammar derives. -/
structure Sound (s : Setting) (fuel : Nat) : Prop where
  expr : ∀ {p q : Progress} {x : Expr}, expr s fuel p = .ok x q →
    ∃ ts, p.rest = ts ++ q.rest ∧ IsExpr OptionalPath s p.setup ts x q.setup ∧
      ClosesExpr (nextToken s.stop q.rest)
  binary : ∀ {least : Nat} {p q : Progress} {x : Expr}, binary s fuel least p = .ok x q →
    ∃ ts, p.rest = ts ++ q.rest ∧ IsBinary OptionalPath s least p.setup ts x q.setup ∧
      Closes least (nextToken s.stop q.rest)
  -- the operators still to come bind no tighter than the operand read so far
  binaryTail : ∀ {least level : Nat} {a : List Stmt} {ts : List Token} {p q : Progress} {x y : Expr},
    binaryTail s fuel least x p = .ok y q → IsBinary OptionalPath s level a ts x p.setup →
    least ≤ level → Closes (level + 1) (nextToken s.stop p.rest) →
    ∃ us, p.rest = us ++ q.rest ∧ IsBinary OptionalPath s least a (ts ++ us) y q.setup ∧
      Closes least (nextToken s.stop q.rest)
  unary : ∀ {p q : Progress} {x : Expr}, unary s fuel p = .ok x q →
    ∃ ts, p.rest = ts ++ q.rest ∧ IsUnary OptionalPath s p.setup ts x q.setup ∧
      ClosesOperand (nextToken s.stop q.rest)
  postfixes : ∀ {f : Follow} {a : List Stmt} {ts : List Token} {p q : Progress} {x y : Expr},
    postfixes s fuel x p = .ok y q → IsOperand OptionalPath s f a ts x p.setup →
    Fits s.stop f p.rest →
    ∃ us g, p.rest = us ++ q.rest ∧ IsOperand OptionalPath s g a (ts ++ us) y q.setup ∧
      ClosesOperand (nextToken s.stop q.rest)
  args : ∀ {p q : Progress} {xs : List Expr}, args s fuel p = .ok xs q →
    ∃ ts, p.rest = ts ++ q.rest ∧ IsArgs OptionalPath s p.setup ts xs q.setup
  argsTail : ∀ {p q : Progress} {xs : List Expr}, argsTail s fuel p = .ok xs q →
    ∃ ts, p.rest = ts ++ q.rest ∧ IsItems OptionalPath s p.setup ts xs q.setup
  primary : ∀ {p q : Progress} {x : Expr}, primary s fuel p = .ok x q →
    ∃ ts f, p.rest = ts ++ q.rest ∧ IsOperand OptionalPath s f p.setup ts x q.setup ∧
      Fits s.stop f q.rest

section
variable {fuel : Nat} {p q : Progress} {x y : Expr}

theorem expr_sound (ih : Sound s fuel) (h : expr s (fuel + 1) p = .ok x q) :
    ∃ ts, p.rest = ts ++ q.rest ∧ IsExpr OptionalPath s p.setup ts x q.setup ∧
      ClosesExpr (nextToken s.stop q.rest) := by
  simp only [Binding.expr, bind_ok, peek_bind] at h
  obtain ⟨c, r, first, h⟩ := h
  obtain ⟨ts, shape, derived, closes⟩ := ih.binary first
  split at h
  · rename_i question
    simp only [advance_bind, bind_ok, expect_ok (show Token.Kind.colon ≠ .eof by decide),
      pure_ok] at h
    obtain ⟨t, r₁, second, colon, r₂, ⟨isColon, rest, shape₁, rfl⟩, e, r₃, third, rfl, rfl⟩ := h
    obtain ⟨mark, rest', shape₀, isMark⟩ := rest_of_nextToken question (by decide)
    obtain ⟨us, shape₂, derived₁, -⟩ := ih.expr second
    obtain ⟨vs, shape₃, derived₂, closes₂⟩ := ih.expr third
    refine ⟨ts ++ mark :: (us ++ colon :: vs), ?_, .cond derived isMark derived₁ isColon derived₂,
      closes₂⟩
    simp only [shape₀, List.drop_succ_cons, List.drop_zero] at shape₂ shape₃
    rw [shape, shape₀, shape₂, shape₁, shape₃]
    simp
  · rename_i other
    rw [pure_ok] at h
    obtain ⟨rfl, rfl⟩ := h
    exact ⟨ts, shape, .plain derived, closes, other⟩

theorem binary_sound (ih : Sound s fuel) {least : Nat} (h : binary s (fuel + 1) least p = .ok x q) :
    ∃ ts, p.rest = ts ++ q.rest ∧ IsBinary OptionalPath s least p.setup ts x q.setup ∧
      Closes least (nextToken s.stop q.rest) := by
  simp only [Binding.binary, bind_ok] at h
  obtain ⟨y, r, first, h⟩ := h
  obtain ⟨ts, shape, derived, closes⟩ := ih.unary first
  -- a single operand is derived at every level, so at one that no operator exceeds
  let level := max least (match binaryOp? (nextToken s.stop r.rest) with
    | some (_, q) => q
    | none => 0)
  have tail : Closes (level + 1) (nextToken s.stop r.rest) := by
    refine ⟨closes, fun op q found => ?_⟩
    have : q ≤ level := by
      simp only [level, found]
      exact Nat.le_max_right _ _
    omega
  have single : IsBinary OptionalPath s level p.setup ts y r.setup := .operand derived
  obtain ⟨us, shape', derived', closes'⟩ := ih.binaryTail h single (Nat.le_max_left _ _) tail
  exact ⟨ts ++ us, by rw [shape, shape', List.append_assoc], derived', closes'⟩

theorem binaryTail_sound (ih : Sound s fuel) {least level : Nat} {a : List Stmt} {ts : List Token}
    (h : binaryTail s (fuel + 1) least x p = .ok y q)
    (left : IsBinary OptionalPath s level a ts x p.setup) (le : least ≤ level)
    (tail : Closes (level + 1) (nextToken s.stop p.rest)) :
    ∃ us, p.rest = us ++ q.rest ∧ IsBinary OptionalPath s least a (ts ++ us) y q.setup ∧
      Closes least (nextToken s.stop q.rest) := by
  simp only [Binding.binaryTail, peek_bind] at h
  cases found : binaryOp? (nextToken s.stop p.rest) with
  | none =>
    simp only [found] at h
    rw [pure_ok] at h
    obtain ⟨rfl, rfl⟩ := h
    refine ⟨[], rfl, ?_, tail.1, fun op level found' => ?_⟩
    · rw [List.append_nil]
      exact left.weaken le
    · rw [found] at found'
      cases found'
  | some joint =>
    obtain ⟨op, here⟩ := joint
    simp only [found] at h
    have notTighter : here ≤ level := by
      have := tail.2 op here found
      omega
    by_cases looser : here < least
    · rw [if_pos looser, pure_ok] at h
      obtain ⟨rfl, rfl⟩ := h
      refine ⟨[], rfl, ?_, tail.1, fun op' level found' => ?_⟩
      · rw [List.append_nil]
        exact left.weaken le
      · rw [found] at found'
        cases found'
        exact looser
    · rw [if_neg looser, advance_bind, bind_ok] at h
      obtain ⟨z, r, second, h⟩ := h
      obtain ⟨t, rest, shape₀, -⟩ := rest_of_nextToken (kind_of_binaryOp found) (by decide)
      rw [shape₀, nextToken_cons] at found
      obtain ⟨us, shape₁, right, closes⟩ := ih.binary second
      have joined : IsBinary OptionalPath s here a (ts ++ t :: us) (.binary op x z) r.setup :=
        .apply (left.weaken notTighter) found (Nat.le_refl _) right
      obtain ⟨vs, shape₂, derived, closes'⟩ := ih.binaryTail h joined (Nat.le_of_not_lt looser) closes
      simp only [shape₀, List.drop_succ_cons, List.drop_zero] at shape₁
      refine ⟨t :: (us ++ vs), ?_, ?_, closes'⟩
      · rw [shape₀, shape₁, shape₂]
        simp
      · simpa using derived

theorem unary_sound (ih : Sound s fuel) (h : unary s (fuel + 1) p = .ok x q) :
    ∃ ts, p.rest = ts ++ q.rest ∧ IsUnary OptionalPath s p.setup ts x q.setup ∧
      ClosesOperand (nextToken s.stop q.rest) := by
  simp only [Binding.unary, peek_bind] at h
  cases found : unaryOp? (nextToken s.stop p.rest) with
  | some op =>
    simp only [found, advance_bind, bind_ok, pure_ok] at h
    obtain ⟨y, r, inner, rfl, rfl⟩ := h
    obtain ⟨t, rest, shape₀, -⟩ := rest_of_nextToken (kind_of_unaryOp found) (by decide)
    rw [shape₀, nextToken_cons] at found
    obtain ⟨ts, shape, derived, closes⟩ := ih.unary inner
    simp only [shape₀, List.drop_succ_cons, List.drop_zero] at shape
    exact ⟨t :: ts, by rw [shape₀, shape]; rfl, .apply found derived, closes⟩
  | none =>
    simp only [found, bind_ok] at h
    obtain ⟨y, r, first, h⟩ := h
    obtain ⟨ts, f, shape, derived, fits⟩ := ih.primary first
    obtain ⟨us, g, shape', derived', closes⟩ := ih.postfixes h derived fits
    exact ⟨ts ++ us, by rw [shape, shape', List.append_assoc], .operand derived', closes⟩

theorem postfixes_sound (ih : Sound s fuel) {f : Follow} {a : List Stmt} {ts : List Token}
    (h : postfixes s (fuel + 1) x p = .ok y q) (first : IsOperand OptionalPath s f a ts x p.setup)
    (fits : Fits s.stop f p.rest) :
    ∃ us g, p.rest = us ++ q.rest ∧ IsOperand OptionalPath s g a (ts ++ us) y q.setup ∧
      ClosesOperand (nextToken s.stop q.rest) := by
  simp only [Binding.postfixes, peek_bind] at h
  by_cases isDot : (nextToken s.stop p.rest).kind = .dot
  · rw [if_pos isDot, advance_bind, bind_ok] at h
    obtain ⟨name, r, named, h⟩ := h
    rw [expect_ok (by decide)] at named
    obtain ⟨isName, rest, shape₁, rfl⟩ := named
    obtain ⟨dot, rest', shape₀, isDot'⟩ := rest_of_nextToken isDot (by decide)
    simp only [shape₀, List.drop_succ_cons, List.drop_zero] at shape₁ h
    subst shape₁
    by_cases free : name.text = reserved
    · rw [if_pos free, throw_bind] at h
      cases h
    rw [if_neg free, peek_bind] at h
    by_cases isCall : (nextToken s.stop rest).kind = .leftParen
    · rw [if_pos isCall, bind_ok] at h
      obtain ⟨xs, r, arguments, h⟩ := h
      obtain ⟨us, shape₂, derived⟩ := ih.args arguments
      have goesOn : f ≠ .index := by
        rintro rfl
        exact fits isDot
      obtain ⟨vs, g, shape₃, derived', closes⟩ :=
        ih.postfixes h (.call first goesOn isDot' ⟨isName, free⟩ derived) trivial
      simp only at shape₂
      refine ⟨dot :: name :: (us ++ vs), g, ?_, ?_, closes⟩
      · rw [shape₀, shape₂, shape₃]
        simp
      · simpa using derived'
    · rw [if_neg isCall] at h
      have goesOn : f = .all := by
        cases f with
        | all => rfl
        | method =>
          obtain ⟨_, _, paren, rest', shape, -, isParen⟩ := fits isDot
          rw [shape₀] at shape
          cases shape
          exact absurd isParen isCall
        | index => exact absurd isDot fits
      subst goesOn
      obtain ⟨us, g, shape, derived, closes⟩ :=
        ih.postfixes h (.member first isDot' ⟨isName, free⟩) trivial
      simp only at shape
      refine ⟨dot :: name :: us, g, by rw [shape₀, shape]; rfl, ?_, closes⟩
      simpa using derived
  rw [if_neg isDot] at h
  by_cases isBrack : (nextToken s.stop p.rest).kind = .leftBrack
  · rw [if_pos isBrack] at h
    simp only [advance_bind, bind_ok, expect_ok (show Token.Kind.rightBrack ≠ .eof by decide)] at h
    obtain ⟨i, r, inner, right, r', ⟨isRight, rest, shape₂, rfl⟩, h⟩ := h
    obtain ⟨left, rest', shape₀, isLeft⟩ := rest_of_nextToken isBrack (by decide)
    obtain ⟨us, shape₁, derived, -⟩ := ih.expr inner
    obtain ⟨vs, g, shape₃, derived', closes⟩ :=
      ih.postfixes h (.index first isLeft derived isRight) trivial
    simp only [shape₀, List.drop_succ_cons, List.drop_zero] at shape₁ shape₃
    refine ⟨left :: (us ++ right :: vs), g, ?_, ?_, closes⟩
    · rw [shape₀, shape₁, shape₂, shape₃]
      simp
    · simpa using derived'
  rw [if_neg isBrack] at h
  by_cases isParen : (nextToken s.stop p.rest).kind = .leftParen
  · rw [if_pos isParen, throw_ok] at h
    exact h.elim
  · rw [if_neg isParen, pure_ok] at h
    obtain ⟨rfl, rfl⟩ := h
    exact ⟨[], f, rfl, by rwa [List.append_nil], isDot, isBrack, isParen⟩

theorem args_sound (ih : Sound s fuel) {xs : List Expr} (h : args s (fuel + 1) p = .ok xs q) :
    ∃ ts, p.rest = ts ++ q.rest ∧ IsArgs OptionalPath s p.setup ts xs q.setup := by
  rw [Binding.args, bind_ok] at h
  obtain ⟨left, r, opened, h⟩ := h
  rw [expect_ok (by decide)] at opened
  obtain ⟨isLeft, rest, shape₀, rfl⟩ := opened
  rw [peek_bind] at h
  by_cases isRight : (nextToken s.stop rest).kind = .rightParen
  · rw [if_pos isRight, advance_bind, pure_ok] at h
    obtain ⟨rfl, rfl⟩ := h
    obtain ⟨right, rest', rfl, isRight'⟩ := rest_of_nextToken isRight (by decide)
    exact ⟨[left, right], shape₀, .none isLeft isRight'⟩
  · rw [if_neg isRight] at h
    obtain ⟨ts, shape, derived⟩ := ih.argsTail h
    simp only at shape
    exact ⟨left :: ts, by rw [shape₀, shape]; rfl, .some isLeft derived⟩

theorem argsTail_sound (ih : Sound s fuel) {xs : List Expr}
    (h : argsTail s (fuel + 1) p = .ok xs q) :
    ∃ ts, p.rest = ts ++ q.rest ∧ IsItems OptionalPath s p.setup ts xs q.setup := by
  rw [Binding.argsTail, bind_ok] at h
  obtain ⟨x, r, first, h⟩ := h
  obtain ⟨ts, shape, derived, -⟩ := ih.expr first
  rw [take_bind] at h
  by_cases isComma : (nextToken s.stop r.rest).kind = .comma
  · rw [if_pos isComma] at h
    simp only [bind_ok, pure_ok] at h
    obtain ⟨ys, r', second, rfl, rfl⟩ := h
    obtain ⟨comma, rest, shape₀, isComma'⟩ := rest_of_nextToken isComma (by decide)
    obtain ⟨us, shape₁, derived'⟩ := ih.argsTail second
    simp only [shape₀, List.drop_succ_cons, List.drop_zero] at shape₁
    refine ⟨ts ++ comma :: us, ?_, .more derived isComma' derived'⟩
    rw [shape, shape₀, shape₁]
    simp
  rw [if_neg isComma] at h
  by_cases isRight : (nextToken s.stop r.rest).kind = .rightParen
  · rw [if_pos isRight, pure_ok] at h
    obtain ⟨rfl, rfl⟩ := h
    obtain ⟨right, rest, shape₀, isRight'⟩ := rest_of_nextToken isRight (by decide)
    refine ⟨ts ++ [right], ?_, .last derived isRight'⟩
    rw [shape, shape₀]
    simp
  · rw [if_neg isRight, throw_ok] at h
    exact h.elim

theorem dataPath_sound (ih : Sound s fuel) {t : Token} {rest : List Token}
    (h : dataPath s (args s fuel) t p = .ok x q) (shape : p.rest = t :: rest)
    (begins : BeginsPath t.text) :
    ∃ ts f, p.rest = ts ++ q.rest ∧ IsOperand OptionalPath s f p.setup ts x q.setup ∧
      Fits s.stop f q.rest := by
  rw [dataPath, bind_ok] at h
  obtain ⟨names, r, read, h⟩ := h
  rw [reading_ok] at read
  obtain ⟨rest', read, rfl⟩ := read
  obtain ⟨ts, shape₁, derived, stops⟩ := path_sound read
  obtain ⟨u, us, -, rfl, -, -⟩ := derived.head
  obtain rfl : t = u := by
    rw [shape, List.cons_append, List.cons.injEq] at shape₁
    exact shape₁.1
  dsimp only at h
  rw [peek_bind] at h
  by_cases isCall : (nextToken s.stop rest').kind = .leftParen
  · rw [if_pos isCall] at h
    by_cases short : names.length = 1
    · rw [if_pos short, throw_bind] at h
      cases h
    · rw [if_neg short, bind_ok] at h
      obtain ⟨xs, r, arguments, h⟩ := h
      rw [pure_ok] at h
      obtain ⟨rfl, rfl⟩ := h
      obtain ⟨vs, dot, name, shape₂, derived', isDot, isName, same⟩ := derived.split_last short
      obtain ⟨ws, shape₃, derived''⟩ := ih.args arguments
      obtain ⟨u, vs, -, rfl, -, -⟩ := derived'.head
      rw [List.cons_append, List.cons.injEq] at shape₂
      obtain ⟨rfl, rfl⟩ := shape₂
      rw [same]
      refine ⟨_, .all, ?_, .method derived' begins isDot isName derived'', trivial⟩
      dsimp only at shape₃
      rw [shape₁, shape₃]
      simp
  · rw [if_neg isCall, pure_ok] at h
    obtain ⟨rfl, rfl⟩ := h
    exact ⟨t :: us, .index, shape₁, .path derived begins, stops⟩

theorem identifier_sound (ih : Sound s fuel) {t : Token} {rest : List Token}
    (h : identifier s (args s fuel) t p = .ok x q) (shape : p.rest = t :: rest)
    (kind : t.kind = .identifier) :
    ∃ ts f, p.rest = ts ++ q.rest ∧ IsOperand OptionalPath s f p.setup ts x q.setup ∧
      Fits s.stop f q.rest := by
  unfold identifier at h
  cases named : namedValue? t.text with
  | some y =>
    simp only [named] at h
    rw [advance_bind, pure_ok] at h
    obtain ⟨rfl, rfl⟩ := h
    refine ⟨[t], .all, ?_, .named kind named, trivial⟩
    simp [shape]
  | none =>
    simp only [named] at h
    rw [get_bind] at h
    split at h
    · rename_i access
      simp only [Bool.and_eq_true, Bool.or_eq_true, decide_eq_true_eq] at access
      rw [readAccessor_ok] at h
      obtain ⟨side, found, rest', read, rfl, rfl⟩ := h
      rw [shape] at read
      obtain ⟨ts, shape', again⟩ := accessor_sound read
      refine ⟨t :: ts, .all, ?_, .access kind access.1 side again, trivial⟩
      rw [shape, shape']
      rfl
    · split at h
      · rw [throw_ok] at h
        exact h.elim
      rename_i notThis
      split at h
      · rename_i isMarker
        by_cases side : s.side = .global
        · rw [if_neg (fun other => other side), advance_bind, bind_ok] at h
          obtain ⟨path, r, read, h⟩ := h
          rw [readGlobalPath_ok] at read
          obtain ⟨rest', read, rfl⟩ := read
          rw [pure_ok] at h
          obtain ⟨rfl, rfl⟩ := h
          obtain ⟨ts, f, shape', derived, fits⟩ := globalPath_sound read
          rw [shape] at shape'
          refine ⟨t :: ts, f, ?_, .global kind isMarker side derived, fits⟩
          rw [shape, List.cons_append, ← shape']
          rfl
        · rw [if_pos side, throw_bind] at h
          cases h
      rename_i notMarker
      split at h
      · rw [throw_ok] at h
        exact h.elim
      · rename_i notPlaceholder
        refine dataPath_sound ih h shape ⟨named, notThis, ?_, ?_⟩
        · simpa using notMarker
        · simpa using notPlaceholder

theorem primary_sound (ih : Sound s fuel) (h : primary s (fuel + 1) p = .ok x q) :
    ∃ ts f, p.rest = ts ++ q.rest ∧ IsOperand OptionalPath s f p.setup ts x q.setup ∧
      Fits s.stop f q.rest := by
  rw [Binding.primary, peek_bind] at h
  cases shape : p.rest with
  | nil =>
    simp only [shape, nextToken_nil, eofAt_kind] at h
    rw [throw_ok] at h
    exact h.elim
  | cons t rest =>
    simp only [shape, nextToken_cons] at h
    cases kind : t.kind with
    | number =>
      simp only [kind] at h
      rw [advance_bind] at h
      unfold number at h
      cases read : Number.read t.text.toList with
      | error e =>
        simp only [read] at h
        rw [throw_ok] at h
        exact h.elim
      | ok v =>
        simp only [read] at h
        rw [pure_ok] at h
        obtain ⟨rfl, rfl⟩ := h
        exact ⟨[t], .all, by simp [shape], .number kind read, trivial⟩
    | string =>
      simp only [kind] at h
      rw [advance_bind] at h
      unfold string at h
      cases read : unquoted s.text t with
      | error e =>
        simp only [read] at h
        rw [throw_ok] at h
        exact h.elim
      | ok text =>
        simp only [read] at h
        rw [pure_ok] at h
        obtain ⟨rfl, rfl⟩ := h
        exact ⟨[t], .all, by simp [shape], .string kind read, trivial⟩
    | leftParen =>
      simp only [kind] at h
      simp only [advance_bind, bind_ok, pure_ok,
        expect_ok (show Token.Kind.rightParen ≠ .eof by decide)] at h
      obtain ⟨y, r, inner, right, r', ⟨isRight, rest', shape₂, rfl⟩, rfl, rfl⟩ := h
      obtain ⟨ts, shape₁, derived, -⟩ := ih.expr inner
      simp only [shape, List.drop_succ_cons, List.drop_zero] at shape₁
      refine ⟨t :: (ts ++ [right]), .all, ?_, .paren kind derived isRight, trivial⟩
      rw [shape₁, shape₂]
      simp
    | identifier =>
      simp only [kind] at h
      rw [← shape]
      exact identifier_sound ih h shape kind
    | _ =>
      simp only [kind] at h
      rw [throw_ok] at h
      exact h.elim

end

theorem sound (s : Setting) (fuel : Nat) : Sound s fuel := by
  induction fuel with
  | zero =>
    constructor <;> intros <;> contradiction
  | succ fuel ih =>
    exact {
      expr := expr_sound ih
      binary := binary_sound ih
      binaryTail := binaryTail_sound ih
      unary := unary_sound ih
      postfixes := postfixes_sound ih
      args := args_sound ih
      argsTail := argsTail_sound ih
      primary := primary_sound ih }

end PageBinding.Binding
