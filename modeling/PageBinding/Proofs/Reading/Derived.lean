import PageBinding.Proofs.Reading.Accepted

/-!
What is derived is read: tokens that derive a value are taken off the head of a side, whatever
comes after them that could not belong to the value. There is a lemma for each production of the
grammar, and eight units of fuel for each token are enough for all of them.

Operators after an operand, and members after an operand, are read by loops. For those a derivation
says where the loop stands once its tokens are read, and with how much fuel.
-/
namespace PageBinding.Binding

variable {s : Setting} {stop : Nat}

/-! ## Paths -/

theorem pathTail_complete {ts rest : List Token} {names : List String} (h : IsPath ts names)
    (stops : (nextToken stop rest).kind ≠ .dot) :
    pathTail stop (ts.tail ++ rest) = .ok (names.tail, rest) := by
  induction h with
  | last name =>
    match rest with
    | [] => rfl
    | [_] => exact if_neg stops
    | _ :: _ :: _ => exact if_neg stops
  | more name isDot path ih =>
    obtain ⟨u, us, tail, rfl, rfl, isName, free⟩ := path.head
    rw [List.tail_cons, List.cons_append, List.cons_append, pathTail, if_pos isDot,
      if_pos isName, segment_ok.2 ⟨free, rfl⟩]
    simp only [List.tail_cons] at ih ⊢
    rw [ih]

theorem path_complete {ts rest : List Token} {names : List String} (h : IsPath ts names)
    (stops : (nextToken stop rest).kind ≠ .dot) : path stop (ts ++ rest) = .ok (names, rest) := by
  have tail := pathTail_complete h stops
  obtain ⟨t, ts, names, rfl, rfl, isName, free⟩ := h.head
  rw [List.tail_cons, List.tail_cons] at tail
  rw [List.cons_append, path, if_pos isName, segment_ok.2 ⟨free, rfl⟩]
  simp only [tail]

theorem IsPath.snoc {ts : List Token} {names : List String} {dot name : Token}
    (h : IsPath ts names) (isDot : dot.kind = .dot) (isName : IsName name) :
    IsPath (ts ++ [dot, name]) (names ++ [name.text]) := by
  induction h with
  | last first => exact .more first isDot (.last isName)
  | more first isDot' path ih => exact .more first isDot' ih

/-- Before a parenthesis a path takes in the name of the method. -/
theorem path_with_method {ts rest : List Token} {names : List String} {dot name paren : Token}
    (h : IsPath ts names) (isDot : dot.kind = .dot) (isName : IsName name)
    (isParen : paren.kind = .leftParen) :
    path stop (ts ++ dot :: name :: paren :: rest) =
      .ok (names ++ [name.text], paren :: rest) := by
  have stops : (nextToken stop (paren :: rest)).kind ≠ .dot := by simp [isParen]
  have whole := path_complete (h.snoc isDot isName) stops
  simpa using whole

/-- What may follow a marker is read as the path that it spells, up to what an operand goes on
with. -/
theorem globalPath_complete {ts rest : List Token} {spelt : String} {f : Follow}
    (h : OptionalPath ts spelt f) (fits : Fits stop f rest)
    (noCall : (nextToken stop rest).kind ≠ .leftParen)
    (apart : (nextToken stop rest).kind ≠ .identifier) :
    globalPath stop (ts ++ rest) = .ok (spelt, rest) := by
  cases h with
  | missing isDot =>
    rw [List.singleton_append, globalPath, if_pos isDot, if_neg apart]
  | dotted h =>
    cases h with
    | none =>
      cases rest with
      | nil => rfl
      | cons t rest => exact if_neg fits
    | @path dot ts names isDot path =>
      have begins : (nextToken stop (ts ++ rest)).kind = .identifier := by
        obtain ⟨t, us, tail, rfl, -, isName⟩ := path.head
        exact isName.1
      rw [List.cons_append, globalPath, if_pos isDot, if_pos begins]
      by_cases goesOn : (nextToken stop rest).kind = .dot
      · -- the path is read with the method after it, which is then left
        obtain ⟨dot', name, paren, rest', rfl, isName, isParen⟩ := fits goesOn
        rw [nextToken_cons] at goesOn
        have kept : 2 * (names ++ [name.text]).length - 3 = ts.length := by
          rw [path.length.1, List.length_append, List.length_singleton]
          omega
        have long : 1 < (names ++ [name.text]).length := by
          have := path.length.2
          rw [List.length_append, List.length_singleton]
          omega
        simp only [path_with_method path goesOn isName isParen, kept, nextToken_cons, isParen,
          long, decide_true, Bool.and_self, if_true, List.drop_left, List.dropLast_concat]
      · simp only [path_complete path goesOn, noCall, decide_false, Bool.false_and,
          Bool.false_eq_true, if_false]

/-! ## What a derivation promises -/

/-- No name stands directly after what was read. -/
def Apart (s : Setting) (rest : List Token) : Prop :=
  (nextToken s.stop rest).kind ≠ .identifier

/-- An expression is read to its end. -/
def ReadsExpr (s : Setting) (a : List Stmt) (ts : List Token) (x : Expr) (b : List Stmt) : Prop :=
  ∀ rest w fuel, ClosesExpr (nextToken s.stop rest) → Apart s rest → 8 * ts.length + 4 ≤ fuel →
    ∃ w', expr s fuel ⟨ts ++ rest, a, w⟩ = .ok x ⟨rest, b, w'⟩

/-- Reading operands and operators comes to the loop with the operands joined. -/
def ReadsBinary (s : Setting) (level : Nat) (a : List Stmt) (ts : List Token) (x : Expr)
    (b : List Stmt) : Prop :=
  ∀ least rest w fuel, least ≤ level → Closes (level + 1) (nextToken s.stop rest) →
    Apart s rest → 8 * ts.length + 3 ≤ fuel →
    ∃ fuel' w', fuel ≤ fuel' + ts.length + 1 ∧
      binary s fuel least ⟨ts ++ rest, a, w⟩ = binaryTail s fuel' least x ⟨rest, b, w'⟩

/-- An operand with its operators is read to its end. -/
def ReadsUnary (s : Setting) (a : List Stmt) (ts : List Token) (x : Expr) (b : List Stmt) : Prop :=
  ∀ rest w fuel, ClosesOperand (nextToken s.stop rest) → Apart s rest →
    8 * ts.length + 2 ≤ fuel → ∃ w', unary s fuel ⟨ts ++ rest, a, w⟩ = .ok x ⟨rest, b, w'⟩

/-- Reading an operand comes to the loop with the members so far. -/
def ReadsOperand (s : Setting) (f : Follow) (a : List Stmt) (ts : List Token) (x : Expr)
    (b : List Stmt) : Prop :=
  ∀ rest w fuel, Fits s.stop f rest → (nextToken s.stop rest).kind ≠ .leftParen →
    Apart s rest → 8 * ts.length + 1 ≤ fuel →
    ∃ fuel' w', fuel ≤ fuel' + ts.length ∧
      (primary s fuel >>= postfixes s fuel) ⟨ts ++ rest, a, w⟩ =
        postfixes s fuel' x ⟨rest, b, w'⟩

/-- Arguments are read to their end, whatever follows. -/
def ReadsArgs (s : Setting) (a : List Stmt) (ts : List Token) (xs : List Expr) (b : List Stmt) :
    Prop :=
  ∀ rest w fuel, 8 * ts.length ≤ fuel →
    ∃ w', args s fuel ⟨ts ++ rest, a, w⟩ = .ok xs ⟨rest, b, w'⟩

/-- Arguments are read up to the closing parenthesis, whatever follows. -/
def ReadsItems (s : Setting) (a : List Stmt) (ts : List Token) (xs : List Expr) (b : List Stmt) :
    Prop :=
  ∀ rest w fuel, 8 * ts.length ≤ fuel →
    ∃ w', argsTail s fuel ⟨ts ++ rest, a, w⟩ = .ok xs ⟨rest, b, w'⟩

/-! ## Productions -/

section
variable {a b c d : List Stmt} {ts us vs : List Token} {x y z : Expr} {xs : List Expr}

theorem Closes.weaken {least level : Nat} {t : Token} (h : Closes least t) (le : least ≤ level) :
    Closes level t := by
  refine ⟨h.1, fun op q found => ?_⟩
  exact Nat.lt_of_lt_of_le (h.2 op q found) le

/-- Tokens that are no operators and do not open anything close every level. -/
theorem closes_of_kind {t : Token} (level : Nat)
    (h : t.kind ∈ [Token.Kind.question, .colon, .comma, .rightParen, .rightBrack, .eof]) :
    Closes level t := by
  refine ⟨⟨?_, ?_, ?_⟩, fun op q found => ?_⟩
  · rintro kind
    simp [kind] at h
  · rintro kind
    simp [kind] at h
  · rintro kind
    simp [kind] at h
  · simp [kind_of_binaryOp found] at h

/-- The loop over operators ends where no operator of its level comes next. -/
theorem binaryTail_stop {fuel least : Nat} {rest : List Token} {w : List Nat}
    (closes : Closes least (nextToken s.stop rest)) :
    binaryTail s (fuel + 1) least x ⟨rest, b, w⟩ = .ok x ⟨rest, b, w⟩ := by
  rw [Binding.binaryTail, peek_bind]
  cases found : binaryOp? (nextToken s.stop rest) with
  | none => rfl
  | some joint =>
    obtain ⟨op, q⟩ := joint
    have looser := closes.2 op q found
    show (if q < least then _ else _ : Parse Expr) _ = _
    rw [if_pos looser]
    rfl

theorem ReadsBinary.complete {level : Nat} (h : ReadsBinary s level a ts x b)
    (rest : List Token) (w : List Nat) (fuel : Nat) (closes : Closes level (nextToken s.stop rest))
    (apart : Apart s rest) (enough : 8 * ts.length + 3 ≤ fuel) :
    ∃ w', binary s fuel level ⟨ts ++ rest, a, w⟩ = .ok x ⟨rest, b, w'⟩ := by
  obtain ⟨fuel', w', spent, read⟩ :=
    h level rest w fuel (Nat.le_refl level) (closes.weaken (Nat.le_succ level)) apart enough
  obtain ⟨left, rfl⟩ : ∃ left, fuel' = left + 1 := ⟨fuel' - 1, by omega⟩
  exact ⟨w', read.trans (binaryTail_stop closes)⟩

theorem ReadsExpr.plain (h : ReadsBinary s 1 a ts x b) : ReadsExpr s a ts x b := by
  intro rest w fuel closes apart enough
  obtain ⟨fuel, rfl⟩ : ∃ n, fuel = n + 1 := ⟨fuel - 1, by omega⟩
  obtain ⟨w', read⟩ := h.complete rest w fuel closes.1 apart (by omega)
  refine ⟨w', ?_⟩
  rw [Binding.expr, bind_of_ok read, peek_bind, if_neg closes.2]
  rfl

theorem ReadsExpr.cond {question colon : Token} (condition : ReadsBinary s 1 a ts x b)
    (isQuestion : question.kind = .question) (first : ReadsExpr s b us y c)
    (isColon : colon.kind = .colon) (second : ReadsExpr s c vs z d) :
    ReadsExpr s a (ts ++ question :: (us ++ colon :: vs)) (.cond x y z) d := by
  intro rest w fuel closes apart enough
  simp only [List.length_append, List.length_cons] at enough
  obtain ⟨fuel, rfl⟩ : ∃ n, fuel = n + 1 := ⟨fuel - 1, by omega⟩
  obtain ⟨w₁, read₁⟩ := condition.complete (question :: (us ++ colon :: (vs ++ rest))) w fuel
    (closes_of_kind 1 (by simp [isQuestion])) (by simp [Apart, isQuestion]) (by omega)
  obtain ⟨w₂, read₂⟩ := first (colon :: (vs ++ rest)) w₁ fuel
    ⟨closes_of_kind 1 (by simp [isColon]), by simp [isColon]⟩ (by simp [Apart, isColon]) (by omega)
  obtain ⟨w₃, read₃⟩ := second rest w₂ fuel closes apart (by omega)
  refine ⟨w₃, ?_⟩
  rw [show (ts ++ question :: (us ++ colon :: vs)) ++ rest =
    ts ++ question :: (us ++ colon :: (vs ++ rest)) by simp]
  rw [Binding.expr, bind_of_ok read₁, peek_bind, nextToken_cons, if_pos isQuestion, advance_bind]
  rw [List.drop_succ_cons, List.drop_zero, bind_of_ok read₂, bind_of_ok (expect_cons isColon _),
    bind_of_ok read₃]
  rfl

theorem ReadsBinary.operand {level : Nat} (h : ReadsUnary s a ts x b) :
    ReadsBinary s level a ts x b := by
  intro least rest w fuel le closes apart enough
  obtain ⟨fuel, rfl⟩ : ∃ n, fuel = n + 1 := ⟨fuel - 1, by omega⟩
  obtain ⟨w', read⟩ := h rest w fuel closes.1 apart (by omega)
  refine ⟨fuel, w', by omega, ?_⟩
  rw [Binding.binary, bind_of_ok read]

theorem ReadsBinary.apply {least level : Nat} {t : Token} {op : BinaryOp}
    (left : ReadsBinary s level a ts x b) (found : binaryOp? t = some (op, level))
    (le : least ≤ level) (right : ReadsBinary s (level + 1) b us y c) :
    ReadsBinary s least a (ts ++ t :: us) (.binary op x y) c := by
  intro least' rest w fuel le' closes apart enough
  simp only [List.length_append, List.length_cons] at enough ⊢
  have kind := kind_of_binaryOp found
  have here : Closes (level + 1) t := by
    refine ⟨⟨by simp [kind], by simp [kind], by simp [kind]⟩, fun op' q found' => ?_⟩
    rw [found] at found'
    cases found'
    exact Nat.lt_succ_self level
  obtain ⟨fuel₁, w₁, spent, read₁⟩ := left least' (t :: (us ++ rest)) w fuel
    (Nat.le_trans le' le) here (by simp [Apart, kind]) (by omega)
  obtain ⟨fuel₁, rfl⟩ : ∃ n, fuel₁ = n + 1 := ⟨fuel₁ - 1, by omega⟩
  obtain ⟨w₂, read₂⟩ := right.complete rest w₁ fuel₁ (closes.weaken (by omega)) apart (by omega)
  refine ⟨fuel₁, w₂, by omega, ?_⟩
  rw [show (ts ++ t :: us) ++ rest = ts ++ t :: (us ++ rest) by simp, read₁, Binding.binaryTail,
    peek_bind, nextToken_cons]
  simp only [found]
  rw [if_neg (show ¬ level < least' by omega), advance_bind, List.drop_succ_cons, List.drop_zero,
    bind_of_ok read₂]

/-- The loop over members ends where nothing goes on an operand. -/
theorem postfixes_stop {fuel : Nat} {rest : List Token} {w : List Nat}
    (closes : ClosesOperand (nextToken s.stop rest)) :
    postfixes s (fuel + 1) x ⟨rest, b, w⟩ = .ok x ⟨rest, b, w⟩ := by
  rw [Binding.postfixes, peek_bind, if_neg closes.1, if_neg closes.2.1, if_neg closes.2.2]
  rfl

theorem ClosesOperand.fits {rest : List Token} (h : ClosesOperand (nextToken stop rest))
    (f : Follow) : Fits stop f rest := by
  cases f with
  | all => trivial
  | method => exact fun isDot => absurd isDot h.1
  | index => exact h.1

theorem ReadsUnary.operand {f : Follow} (begins : ∃ t us, ts = t :: us ∧ t.kind ≠ .operator)
    (h : ReadsOperand s f a ts x b) : ReadsUnary s a ts x b := by
  intro rest w fuel closes apart enough
  obtain ⟨fuel, rfl⟩ : ∃ n, fuel = n + 1 := ⟨fuel - 1, by omega⟩
  obtain ⟨fuel', w', spent, read⟩ :=
    h rest w fuel (closes.fits f) closes.2.2 apart (by omega)
  obtain ⟨fuel', rfl⟩ : ∃ n, fuel' = n + 1 := ⟨fuel' - 1, by omega⟩
  refine ⟨w', ?_⟩
  have none : unaryOp? (nextToken s.stop (ts ++ rest)) = none := by
    obtain ⟨t, us, rfl, kind⟩ := begins
    exact if_neg kind
  rw [Binding.unary, peek_bind]
  simp only [none]
  exact read.trans (postfixes_stop closes)

theorem ReadsUnary.apply {t : Token} {op : UnaryOp} (found : unaryOp? t = some op)
    (h : ReadsUnary s a ts x b) : ReadsUnary s a (t :: ts) (.unary op x) b := by
  intro rest w fuel closes apart enough
  simp only [List.length_cons] at enough
  obtain ⟨fuel, rfl⟩ : ∃ n, fuel = n + 1 := ⟨fuel - 1, by omega⟩
  obtain ⟨w', read⟩ := h rest w fuel closes apart (by omega)
  refine ⟨w', ?_⟩
  rw [List.cons_append, Binding.unary, peek_bind, nextToken_cons]
  simp only [found]
  rw [advance_bind, List.drop_succ_cons, List.drop_zero, bind_of_ok read]
  rfl

/-- An operand without members. -/
theorem ReadsOperand.ofPrimary {f : Follow}
    (h : ∀ rest w fuel, Fits s.stop f rest → (nextToken s.stop rest).kind ≠ .leftParen →
      Apart s rest → 8 * ts.length ≤ fuel →
      ∃ w', primary s (fuel + 1) ⟨ts ++ rest, a, w⟩ = .ok x ⟨rest, b, w'⟩) :
    ReadsOperand s f a ts x b := by
  intro rest w fuel fits noCall apart enough
  obtain ⟨fuel, rfl⟩ : ∃ n, fuel = n + 1 := ⟨fuel - 1, by omega⟩
  obtain ⟨w', read⟩ := h rest w fuel fits noCall apart (by omega)
  exact ⟨fuel + 1, w', Nat.le_add_right _ _, bind_of_ok read _⟩

theorem ReadsOperand.number {t : Token} {v : Float} (kind : t.kind = .number)
    (read : Number.read t.text.toList = .ok v) :
    ReadsOperand s .all a [t] (.lit t.text (.number v)) a := by
  apply ofPrimary
  intro rest w fuel _ _ _ _
  refine ⟨w, ?_⟩
  rw [Binding.primary, peek_bind, List.singleton_append, nextToken_cons]
  simp only [kind]
  rw [advance_bind]
  unfold Binding.number
  simp only [read]
  rfl

theorem ReadsOperand.string {t : Token} {text : RawText} (kind : t.kind = .string)
    (read : unquoted s.text t = .ok text) :
    ReadsOperand s .all a [t] (.lit (Literal.quoteRaw text) (.ofRaw text)) a := by
  apply ofPrimary
  intro rest w fuel _ _ _ _
  refine ⟨w, ?_⟩
  rw [Binding.primary, peek_bind, List.singleton_append, nextToken_cons]
  simp only [kind]
  rw [advance_bind]
  unfold Binding.string
  simp only [read]
  rfl

theorem ReadsOperand.paren {left right : Token} (isLeft : left.kind = .leftParen)
    (h : ReadsExpr s a ts x b) (isRight : right.kind = .rightParen) :
    ReadsOperand s .all a (left :: (ts ++ [right])) (.paren x) b := by
  apply ofPrimary
  intro rest w fuel _ _ _ enough
  simp only [List.length_cons, List.length_append] at enough
  obtain ⟨w', read⟩ := h (right :: rest) w fuel
    ⟨closes_of_kind 1 (by simp [isRight]), by simp [isRight]⟩ (by simp [Apart, isRight]) (by omega)
  refine ⟨w', ?_⟩
  rw [Binding.primary, peek_bind, List.cons_append, nextToken_cons]
  simp only [isLeft]
  rw [advance_bind, List.drop_succ_cons, List.drop_zero, List.append_assoc, List.singleton_append,
    bind_of_ok read, bind_of_ok (expect_cons isRight _)]
  rfl

/-- An operand that begins with a name. -/
theorem ReadsOperand.ofIdentifier {f : Follow} {t : Token} (kind : t.kind = .identifier)
    (h : ∀ rest w fuel, Fits s.stop f rest → (nextToken s.stop rest).kind ≠ .leftParen →
      Apart s rest → 8 * (t :: ts).length ≤ fuel →
      ∃ w', identifier s (args s fuel) t ⟨t :: (ts ++ rest), a, w⟩ = .ok x ⟨rest, b, w'⟩) :
    ReadsOperand s f a (t :: ts) x b := by
  apply ofPrimary
  intro rest w fuel fits noCall apart enough
  obtain ⟨w', read⟩ := h rest w fuel fits noCall apart enough
  refine ⟨w', ?_⟩
  rw [Binding.primary, peek_bind, List.cons_append, nextToken_cons]
  simp only [kind]
  exact read

theorem ReadsOperand.named {t : Token} (kind : t.kind = .identifier)
    (found : namedValue? t.text = some x) : ReadsOperand s .all a [t] x a := by
  apply ofIdentifier kind
  intro rest w fuel _ _ _ _
  refine ⟨w, ?_⟩
  unfold identifier
  simp only [found]
  rfl

theorem ReadsOperand.access {t : Token} {found : Accessor} (kind : t.kind = .identifier)
    (isAccessor : t.text = "attr" ∨ t.text = "prop") (side : s.side = markerSide t.text)
    (read : ∀ rest, accessor s.text t.text s.stop (t :: (ts ++ rest)) = .ok (found, rest)) :
    ReadsOperand s .all a (t :: ts) (accessed s.side a found).1 (accessed s.side a found).2 := by
  apply ofIdentifier kind
  intro rest w fuel _ _ _ _
  refine ⟨w, ?_⟩
  have none : namedValue? t.text = none := by
    obtain isAttr | isProp := isAccessor
    · rw [isAttr]
      rfl
    · rw [isProp]
      rfl
  have paren := accessor_opens (read rest)
  unfold identifier
  simp only [none]
  rw [get_bind, List.drop_succ_cons, List.drop_zero, if_pos (by simpa [paren] using isAccessor),
    readAccessor_ok]
  exact ⟨side, found, rest, read rest, rfl, rfl⟩

theorem ReadsOperand.global {f : Follow} {t : Token} {path : String} (kind : t.kind = .identifier)
    (isMarker : Side.isGlobalMarker t.text = true) (side : s.side = .global)
    (h : OptionalPath ts path f) :
    ReadsOperand s f a (t :: ts) (.get (.fixed s.global) path) a := by
  apply ofIdentifier kind
  intro rest w fuel fits noCall apart _
  obtain ⟨w', read⟩ : ∃ w', readGlobalPath s t ⟨ts ++ rest, a, w⟩ = .ok path ⟨rest, a, w'⟩ :=
    ⟨_, readGlobalPath_ok.2 ⟨rest, globalPath_complete h fits noCall apart, rfl⟩⟩
  have none : namedValue? t.text = none ∧ ¬ (t.text = "attr" ∨ t.text = "prop") ∧
      t.text ≠ "this" := by
    unfold Side.isGlobalMarker at isMarker
    rw [Bool.or_eq_true, decide_eq_true_eq, decide_eq_true_eq] at isMarker
    obtain isMarker | isMarker := isMarker
    · rw [isMarker]
      decide
    · rw [isMarker]
      decide
  refine ⟨w', ?_⟩
  unfold identifier
  simp only [none.1]
  rw [get_bind, if_neg (by simp [not_or.1 none.2.1]), if_neg none.2.2, if_pos isMarker,
    if_neg (fun other => other side), advance_bind, List.drop_succ_cons, List.drop_zero,
    bind_of_ok read]
  rfl

/-- A name that begins a path is read as one unless it stands directly before a parenthesis. -/
theorem identifier_eq_dataPath {arguments : Parse (List Expr)} {t : Token} {p : Progress}
    (begins : BeginsPath t.text)
    (noCall : (nextToken s.stop (p.rest.drop 1)).kind ≠ .leftParen) :
    identifier s arguments t p = dataPath s arguments t p := by
  unfold identifier
  simp only [begins.1]
  rw [get_bind, if_neg (fun access => noCall (of_decide_eq_true (Bool.and_eq_true_iff.1 access).2)),
    if_neg begins.2.1,
    if_neg (by simp [begins.2.2.1]), if_neg (by simp [begins.2.2.2])]

/-- After the first name of a path there is no parenthesis. -/
theorem IsPath.opens_nothing {t : Token} {rest : List Token} {names : List String}
    (h : IsPath (t :: ts) names) (noCall : (nextToken stop rest).kind ≠ .leftParen) :
    (nextToken stop (ts ++ rest)).kind ≠ .leftParen := by
  cases h with
  | last name => exact noCall
  | more name isDot path => simp [isDot]

theorem ReadsOperand.path {t : Token} {names : List String} (h : IsPath (t :: ts) names)
    (begins : BeginsPath t.text) :
    ReadsOperand s .index a (t :: ts) (.get (.bound s.context) (joinPath names)) a := by
  obtain ⟨_, _, _, same, -, name⟩ := h.head
  cases same
  apply ofIdentifier name.1
  intro rest w fuel fits noCall _ _
  refine ⟨w, ?_⟩
  have read : reading (Binding.path s.stop) ⟨t :: (ts ++ rest), a, w⟩ = .ok names ⟨rest, a, w⟩ :=
    reading_ok.2 ⟨rest, path_complete h fits, rfl⟩
  rw [identifier_eq_dataPath begins (h.opens_nothing noCall), dataPath, bind_of_ok read]
  dsimp only
  rw [peek_bind, if_neg noCall]
  rfl

theorem ReadsOperand.method {t dot name : Token} {names : List String}
    (h : IsPath (t :: ts) names) (begins : BeginsPath t.text) (isDot : dot.kind = .dot)
    (isName : IsName name) (opens : ∃ left us', us = left :: us' ∧ left.kind = .leftParen)
    (arguments : ReadsArgs s a us xs b) :
    ReadsOperand s .all a (t :: (ts ++ dot :: name :: us))
      (.call (.get (.bound s.context) (joinPath names)) name.text xs) b := by
  obtain ⟨_, _, _, same, -, first⟩ := h.head
  cases same
  apply ofIdentifier first.1
  intro rest w fuel _ _ _ enough
  simp only [List.length_cons, List.length_append] at enough
  obtain ⟨w', read'⟩ := arguments rest w fuel (by omega)
  refine ⟨w', ?_⟩
  rw [show (ts ++ dot :: name :: us) ++ rest = ts ++ dot :: name :: (us ++ rest) by simp]
  have read : reading (Binding.path s.stop) ⟨t :: (ts ++ dot :: name :: (us ++ rest)), a, w⟩ =
      .ok (names ++ [name.text]) ⟨us ++ rest, a, w⟩ := by
    obtain ⟨left, us', rfl, isLeft⟩ := opens
    exact reading_ok.2 ⟨_, path_with_method h isDot isName isLeft, rfl⟩
  have paren : (nextToken s.stop (us ++ rest)).kind = .leftParen := by
    obtain ⟨left, us', rfl, isLeft⟩ := opens
    exact isLeft
  have long : (names ++ [name.text]).length ≠ 1 := by
    have := h.length.2
    rw [List.length_append, List.length_singleton]
    omega
  rw [identifier_eq_dataPath begins (h.opens_nothing (by simp [isDot])), dataPath,
    bind_of_ok read]
  dsimp only
  rw [peek_bind, if_pos paren, if_neg long, bind_of_ok read', List.dropLast_concat,
    List.getLast?_concat]
  rfl

/-- After a dot and a name the loop goes on with a call or a member. -/
theorem postfixes_dot {fuel : Nat} {dot name : Token} {rest : List Token} {w : List Nat}
    (isDot : dot.kind = .dot) (isName : IsName name) :
    postfixes s (fuel + 1) x ⟨dot :: name :: rest, b, w⟩ =
      (if (nextToken s.stop rest).kind = .leftParen then
        args s fuel >>= fun xs => postfixes s fuel (.call x name.text xs)
      else postfixes s fuel (.member x name.text)) ⟨rest, b, w⟩ := by
  rw [Binding.postfixes, peek_bind, nextToken_cons, if_pos isDot, advance_bind,
    List.drop_succ_cons, List.drop_zero, bind_of_ok (expect_cons isName.1 _), if_neg isName.2]
  rfl

theorem ReadsOperand.member {dot name : Token} (h : ReadsOperand s .all a ts x b)
    (isDot : dot.kind = .dot) (isName : IsName name) :
    ReadsOperand s .all a (ts ++ [dot, name]) (.member x name.text) b := by
  intro rest w fuel _ noCall _ enough
  simp only [List.length_append, List.length_cons, List.length_nil] at enough ⊢
  obtain ⟨fuel₁, w₁, spent, read⟩ := h (dot :: name :: rest) w fuel trivial (by simp [isDot])
    (by simp [Apart, isDot]) (by omega)
  obtain ⟨fuel₁, rfl⟩ : ∃ n, fuel₁ = n + 1 := ⟨fuel₁ - 1, by omega⟩
  refine ⟨fuel₁, w₁, by omega, ?_⟩
  rw [show (ts ++ [dot, name]) ++ rest = ts ++ dot :: name :: rest by simp, read,
    postfixes_dot isDot isName, if_neg noCall]

theorem ReadsOperand.call {f : Follow} {dot name : Token} (h : ReadsOperand s f a ts x b)
    (goesOn : f ≠ .index) (isDot : dot.kind = .dot) (isName : IsName name)
    (opens : ∃ left us', us = left :: us' ∧ left.kind = .leftParen)
    (arguments : ReadsArgs s b us xs c) :
    ReadsOperand s .all a (ts ++ dot :: name :: us) (.call x name.text xs) c := by
  intro rest w fuel _ _ _ enough
  simp only [List.length_append, List.length_cons] at enough ⊢
  have fits : Fits s.stop f (dot :: name :: (us ++ rest)) := by
    cases f with
    | all => trivial
    | method =>
      obtain ⟨left, us', rfl, isLeft⟩ := opens
      exact fun _ => ⟨dot, name, left, us' ++ rest, rfl, isName, isLeft⟩
    | index => exact absurd rfl goesOn
  obtain ⟨fuel₁, w₁, spent, read₁⟩ := h (dot :: name :: (us ++ rest)) w fuel fits (by simp [isDot])
    (by simp [Apart, isDot]) (by omega)
  obtain ⟨fuel₁, rfl⟩ : ∃ n, fuel₁ = n + 1 := ⟨fuel₁ - 1, by omega⟩
  obtain ⟨w₂, read₂⟩ := arguments rest w₁ fuel₁ (by omega)
  refine ⟨fuel₁, w₂, by omega, ?_⟩
  have paren : (nextToken s.stop (us ++ rest)).kind = .leftParen := by
    obtain ⟨left, us', rfl, isLeft⟩ := opens
    exact isLeft
  rw [show (ts ++ dot :: name :: us) ++ rest = ts ++ dot :: name :: (us ++ rest) by simp, read₁,
    postfixes_dot isDot isName, if_pos paren, bind_of_ok read₂]

theorem ReadsOperand.index {f : Follow} {left right : Token} (h : ReadsOperand s f a ts x b)
    (isLeft : left.kind = .leftBrack) (inner : ReadsExpr s b us y c)
    (isRight : right.kind = .rightBrack) :
    ReadsOperand s .all a (ts ++ left :: (us ++ [right])) (.index x y) c := by
  intro rest w fuel _ _ _ enough
  simp only [List.length_append, List.length_cons, List.length_nil] at enough ⊢
  have fits : Fits s.stop f (left :: (us ++ right :: rest)) := by
    cases f with
    | all => trivial
    | method => exact fun isDot => absurd isDot (by simp [isLeft])
    | index => simp [Fits, isLeft]
  obtain ⟨fuel₁, w₁, spent, read₁⟩ := h (left :: (us ++ right :: rest)) w fuel fits
    (by simp [isLeft]) (by simp [Apart, isLeft]) (by omega)
  obtain ⟨fuel₁, rfl⟩ : ∃ n, fuel₁ = n + 1 := ⟨fuel₁ - 1, by omega⟩
  obtain ⟨w₂, read₂⟩ := inner (right :: rest) w₁ fuel₁
    ⟨closes_of_kind 1 (by simp [isRight]), by simp [isRight]⟩ (by simp [Apart, isRight]) (by omega)
  refine ⟨fuel₁, w₂, by omega, ?_⟩
  rw [show (ts ++ left :: (us ++ [right])) ++ rest = ts ++ left :: (us ++ right :: rest) by simp,
    read₁, Binding.postfixes, peek_bind, nextToken_cons, if_neg (by simp [isLeft]), if_pos isLeft,
    advance_bind, List.drop_succ_cons, List.drop_zero, bind_of_ok read₂,
    bind_of_ok (expect_cons isRight _)]

theorem ReadsArgs.none {left right : Token} (isLeft : left.kind = .leftParen)
    (isRight : right.kind = .rightParen) : ReadsArgs s a [left, right] [] a := by
  intro rest w fuel enough
  simp only [List.length_cons, List.length_nil] at enough
  obtain ⟨fuel, rfl⟩ : ∃ n, fuel = n + 1 := ⟨fuel - 1, by omega⟩
  refine ⟨w, ?_⟩
  rw [Binding.args, List.cons_append, bind_of_ok (expect_cons isLeft _), peek_bind,
    List.cons_append, nextToken_cons, if_pos isRight]
  rfl

theorem ReadsArgs.some {left : Token} (isLeft : left.kind = .leftParen)
    (begins : ∃ t us, ts = t :: us ∧ t.kind ≠ .rightParen) (h : ReadsItems s a ts xs b) :
    ReadsArgs s a (left :: ts) xs b := by
  intro rest w fuel enough
  simp only [List.length_cons] at enough
  obtain ⟨fuel, rfl⟩ : ∃ n, fuel = n + 1 := ⟨fuel - 1, by omega⟩
  obtain ⟨w', read⟩ := h rest w fuel (by omega)
  refine ⟨w', ?_⟩
  have open_ : (nextToken s.stop (ts ++ rest)).kind ≠ .rightParen := by
    obtain ⟨t, us, rfl, kind⟩ := begins
    exact kind
  rw [Binding.args, List.cons_append, bind_of_ok (expect_cons isLeft _), peek_bind,
    if_neg open_, read]

theorem ReadsItems.last {right : Token} (h : ReadsExpr s a ts x b)
    (isRight : right.kind = .rightParen) : ReadsItems s a (ts ++ [right]) [x] b := by
  intro rest w fuel enough
  simp only [List.length_append, List.length_cons, List.length_nil] at enough
  obtain ⟨fuel, rfl⟩ : ∃ n, fuel = n + 1 := ⟨fuel - 1, by omega⟩
  obtain ⟨w', read⟩ := h (right :: rest) w fuel
    ⟨closes_of_kind 1 (by simp [isRight]), by simp [isRight]⟩ (by simp [Apart, isRight]) (by omega)
  refine ⟨w', ?_⟩
  rw [Binding.argsTail, List.append_assoc, List.singleton_append, bind_of_ok read, take_bind,
    nextToken_cons, if_neg (by simp [isRight]), if_pos isRight]
  rfl

theorem ReadsItems.more {comma : Token} (h : ReadsExpr s a ts x b) (isComma : comma.kind = .comma)
    (tail : ReadsItems s b us xs c) : ReadsItems s a (ts ++ comma :: us) (x :: xs) c := by
  intro rest w fuel enough
  simp only [List.length_append, List.length_cons] at enough
  obtain ⟨fuel, rfl⟩ : ∃ n, fuel = n + 1 := ⟨fuel - 1, by omega⟩
  obtain ⟨w₁, read₁⟩ := h (comma :: (us ++ rest)) w fuel
    ⟨closes_of_kind 1 (by simp [isComma]), by simp [isComma]⟩ (by simp [Apart, isComma]) (by omega)
  obtain ⟨w₂, read₂⟩ := tail rest w₁ fuel (by omega)
  refine ⟨w₂, ?_⟩
  rw [Binding.argsTail, List.append_assoc, List.cons_append, bind_of_ok read₁, take_bind,
    nextToken_cons, if_pos isComma, List.drop_succ_cons, List.drop_zero, bind_of_ok read₂]
  rfl

end

/-! ## Derivations -/

section
variable {marker : MarkerRule}

theorem IsOperand.head {f : Follow} {a b : List Stmt} {ts : List Token} {x : Expr} :
    IsOperand marker s f a ts x b →
    ∃ t us, ts = t :: us ∧ t.kind ≠ .operator ∧ t.kind ≠ .rightParen
  | .number kind _ => ⟨_, _, rfl, by simp [kind], by simp [kind]⟩
  | .string kind _ => ⟨_, _, rfl, by simp [kind], by simp [kind]⟩
  | .paren kind _ _ => ⟨_, _, rfl, by simp [kind], by simp [kind]⟩
  | .named kind _ => ⟨_, _, rfl, by simp [kind], by simp [kind]⟩
  | .access kind _ _ _ => ⟨_, _, rfl, by simp [kind], by simp [kind]⟩
  | .global kind _ _ _ => ⟨_, _, rfl, by simp [kind], by simp [kind]⟩
  | .path h _ => by
    obtain ⟨_, _, _, same, -, name⟩ := h.head
    cases same
    exact ⟨_, _, rfl, by simp [name.1], by simp [name.1]⟩
  | .method h _ _ _ _ => by
    obtain ⟨_, _, _, same, -, name⟩ := h.head
    cases same
    exact ⟨_, _, rfl, by simp [name.1], by simp [name.1]⟩
  | .member h _ _ => by
    obtain ⟨t, us, rfl, kind⟩ := h.head
    exact ⟨t, _, rfl, kind⟩
  | .call h _ _ _ _ => by
    obtain ⟨t, us, rfl, kind⟩ := h.head
    exact ⟨t, _, rfl, kind⟩
  | .index h _ _ _ => by
    obtain ⟨t, us, rfl, kind⟩ := h.head
    exact ⟨t, _, rfl, kind⟩

theorem IsBinary.head {least : Nat} {a b : List Stmt} {ts : List Token} {x : Expr} :
    IsBinary marker s least a ts x b → ∃ t us, ts = t :: us ∧ t.kind ≠ .rightParen
  | .operand (.operand h) => by
    obtain ⟨t, us, rfl, -, kind⟩ := h.head
    exact ⟨t, us, rfl, kind⟩
  | .operand (.apply found _) => ⟨_, _, rfl, by simp [kind_of_unaryOp found]⟩
  | .apply h _ _ _ => by
    obtain ⟨t, us, rfl, kind⟩ := h.head
    exact ⟨t, _, rfl, kind⟩

theorem IsExpr.head {a b : List Stmt} {ts : List Token} {x : Expr}
    (h : IsExpr marker s a ts x b) : ∃ t us, ts = t :: us ∧ t.kind ≠ .rightParen := by
  cases h with
  | plain h => exact h.head
  | cond h =>
    obtain ⟨t, us, rfl, kind⟩ := h.head
    exact ⟨t, _, rfl, kind⟩

theorem IsItems.head {a b : List Stmt} {ts : List Token} {xs : List Expr}
    (h : IsItems marker s a ts xs b) : ∃ t us, ts = t :: us ∧ t.kind ≠ .rightParen := by
  cases h with
  | last h =>
    obtain ⟨t, us, rfl, kind⟩ := h.head
    exact ⟨t, _, rfl, kind⟩
  | more h =>
    obtain ⟨t, us, rfl, kind⟩ := h.head
    exact ⟨t, _, rfl, kind⟩

theorem IsArgs.head {a b : List Stmt} {ts : List Token} {xs : List Expr}
    (h : IsArgs marker s a ts xs b) : ∃ t us, ts = t :: us ∧ t.kind = .leftParen := by
  cases h with
  | none isLeft => exact ⟨_, _, rfl, isLeft⟩
  | some isLeft => exact ⟨_, _, rfl, isLeft⟩

end

mutual

theorem IsExpr.reads {a b : List Stmt} {ts : List Token} {x : Expr} :
    IsExpr OptionalPath s a ts x b → ReadsExpr s a ts x b
  | .plain h => .plain h.reads
  | .cond h isQuestion first isColon second =>
    .cond h.reads isQuestion first.reads isColon second.reads

theorem IsBinary.reads {least : Nat} {a b : List Stmt} {ts : List Token} {x : Expr} :
    IsBinary OptionalPath s least a ts x b → ReadsBinary s least a ts x b
  | .operand h => .operand h.reads
  | .apply left found le right => .apply left.reads found le right.reads

theorem IsUnary.reads {a b : List Stmt} {ts : List Token} {x : Expr} :
    IsUnary OptionalPath s a ts x b → ReadsUnary s a ts x b
  | .operand h => by
    obtain ⟨t, us, shape, kind, -⟩ := h.head
    exact .operand ⟨t, us, shape, kind⟩ h.reads
  | .apply found h => .apply found h.reads

theorem IsOperand.reads {f : Follow} {a b : List Stmt} {ts : List Token} {x : Expr} :
    IsOperand OptionalPath s f a ts x b → ReadsOperand s f a ts x b
  | .number kind read => .number kind read
  | .string kind read => .string kind read
  | .paren isLeft h isRight => .paren isLeft h.reads isRight
  | .named kind found => .named kind found
  | .access kind isAccessor side read => .access kind isAccessor side read
  | .global kind isMarker side h => .global kind isMarker side h
  | .path h begins => .path h begins
  | .method h begins isDot isName arguments =>
    .method h begins isDot isName arguments.head arguments.reads
  | .member h isDot isName => .member h.reads isDot isName
  | .call h goesOn isDot isName arguments =>
    .call h.reads goesOn isDot isName arguments.head arguments.reads
  | .index h isLeft inner isRight => .index h.reads isLeft inner.reads isRight

theorem IsArgs.reads {a b : List Stmt} {ts : List Token} {xs : List Expr} :
    IsArgs OptionalPath s a ts xs b → ReadsArgs s a ts xs b
  | .none isLeft isRight => .none isLeft isRight
  | .some isLeft h => .some isLeft h.head h.reads

theorem IsItems.reads {a b : List Stmt} {ts : List Token} {xs : List Expr} :
    IsItems OptionalPath s a ts xs b → ReadsItems s a ts xs b
  | .last h isRight => .last h.reads isRight
  | .more h isComma tail => .more h.reads isComma tail.reads

end

end PageBinding.Binding
