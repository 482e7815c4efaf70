import PageBinding.Proofs.Text.Cut

/-!
How far the scanner looks ahead: one character after a token decides that it ends there. A token is
read in the same way before another text that begins with that character, and at a space or the end
of the text every token ends.
-/
namespace PageBinding.Token

open Text

variable {a rest rest' : List Char}

/-! ## What follows a token -/

/-- `rest'` begins as `rest` does, or with a space, or not at all. -/
def Softer (rest rest' : List Char) : Prop :=
  ∀ c ∈ rest'.head?, c ∈ rest.head? ∨ isSpace c = true

theorem softer_of_append (u v : List Char) : Softer (u ++ v) u := by
  cases u with
  | nil => exact nofun
  | cons c u => exact fun d begins => .inl begins

theorem Softer.append_left (soft : Softer rest rest') (u : List Char) :
    Softer (u ++ rest) (u ++ rest') := by
  cases u with
  | nil => exact soft
  | cons c u => exact fun d begins => .inl begins

/-- A text that goes on with a space after it. -/
theorem softer_append {v : List Char} (soft : Softer [] v) (u : List Char) : Softer u (u ++ v) := by
  have whole := soft.append_left u
  rwa [List.append_nil] at whole

theorem Stops.soften {p : Char → Bool} (stops : Stops p rest) (soft : Softer rest rest')
    (space : ∀ c, isSpace c = true → p c = false) : Stops p rest' := by
  intro c begins
  rcases soft c begins with same | isSpace
  · exact stops c same
  · exact space c isSpace

theorem space_cases {c : Char} (h : isSpace c = true) : c = ' ' ∨ c = '\t' ∨ c = '\n' ∨ c = '\r' := by
  simpa [isSpace, or_assoc] using h

theorem wordChar_of_space (c : Char) (h : isSpace c = true) : isWordChar c = false := by
  rcases space_cases h with rfl | rfl | rfl | rfl <;> decide

theorem asciiDigit_of_space (c : Char) (h : isSpace c = true) : isAsciiDigit c = false := by
  rcases space_cases h with rfl | rfl | rfl | rfl <;> decide

/-! ## Readers of a part of a token -/

/-- A reader of the head of a text for which one character after the head decides. -/
def LooksAhead (read : List Char → List Char × List Char) : Prop :=
  ∀ ⦃a rest rest'⦄, read (a ++ rest) = (a, rest) → Softer rest rest' →
    read (a ++ rest') = (a, rest')

theorem run_stops (p : Char → Bool) (cs : List Char) : Stops p (run p cs).2 := by
  induction cs with
  | nil => exact nofun
  | cons c cs ih =>
    by_cases isIn : p c = true
    · simpa [run, isIn] using ih
    · have out : p c = false := Bool.eq_false_iff.2 isIn
      simpa [run, out] using stops_cons cs out

theorem run_looksAhead {p : Char → Bool} (space : ∀ c, isSpace c = true → p c = false) :
    LooksAhead (run p) := by
  intro a rest rest' read soft
  have all : (run p (a ++ rest)).1.all p = true := List.all_takeWhile
  have stops := run_stops p (a ++ rest)
  rw [read] at all stops
  exact run_of_stops all (stops.soften soft space)

theorem digits_looksAhead : LooksAhead digits :=
  run_looksAhead asciiDigit_of_space

/-- One reader after another. -/
def andThen (first second : List Char → List Char × List Char) (cs : List Char) :
    List Char × List Char :=
  ((first cs).1 ++ (second (first cs).2).1, (second (first cs).2).2)

theorem LooksAhead.andThen {first second : List Char → List Char × List Char}
    (ahead : LooksAhead first) (ahead' : LooksAhead second)
    (whole : ∀ cs, (first cs).1 ++ (first cs).2 = cs) : LooksAhead (andThen first second) := by
  intro a rest rest' read soft
  simp only [Token.andThen, Prod.mk.injEq] at read
  obtain ⟨text, left⟩ := read
  obtain ⟨b, between, firstRead⟩ : ∃ b r, first (a ++ rest) = (b, r) := ⟨_, _, rfl⟩
  obtain ⟨b', r', secondRead⟩ : ∃ b' r', second between = (b', r') := ⟨_, _, rfl⟩
  simp only [firstRead, secondRead] at text left
  subst text left
  -- the first reader stops before what the second one takes
  have parts := whole (b ++ b' ++ r')
  rw [firstRead, List.append_assoc, List.append_cancel_left_eq] at parts
  subst parts
  rw [List.append_assoc] at firstRead
  have again := ahead firstRead (soft.append_left b')
  have again' := ahead' secondRead soft
  simp only [Token.andThen, List.append_assoc, again, again']

theorem fraction_of_stops (stops : Stops (· = '.') rest) : fraction rest = ([], rest) := by
  cases rest with
  | nil => rfl
  | cons c rest =>
    have notPoint : c ≠ '.' := by simpa using stops c rfl
    unfold fraction
    split
    · rename_i shape
      exact absurd (List.cons.inj shape).1 notPoint
    · rfl

theorem fraction_looksAhead : LooksAhead fraction := by
  intro a rest rest' read soft
  cases a with
  | nil =>
    have stops : Stops (· = '.') rest := by
      rintro c begins
      cases rest with
      | nil => cases begins
      | cons d rest =>
        cases begins
        by_cases point : c = '.'
        · subst point
          cases read
        · simpa using point
    exact fraction_of_stops (stops.soften soft fun c isSpace => by
      rcases space_cases isSpace with rfl | rfl | rfl | rfl <;> decide)
  | cons c a =>
    by_cases point : c = '.'
    · subst point
      simp only [List.cons_append, fraction, Prod.mk.injEq, List.cons.injEq, true_and] at read ⊢
      exact Prod.mk.injEq .. ▸ digits_looksAhead (Prod.ext read.1 read.2) soft
    · have stopped : fraction (c :: (a ++ rest)) = ([], c :: (a ++ rest)) :=
        fraction_of_stops (stops_cons _ (by simpa using point))
      rw [List.cons_append, stopped] at read
      cases read

/-- The signs of an exponent. -/
def isSign (c : Char) : Bool :=
  c = '+' || c = '-'

theorem sign_of_stops (stops : Stops isSign rest) : sign rest = ([], rest) := by
  cases rest with
  | nil => rfl
  | cons c rest =>
    have notSign : isSign c = false := stops c rfl
    unfold sign
    split
    · rename_i shape
      cases shape
      cases notSign
    · rename_i shape
      cases shape
      cases notSign
    · rfl

theorem sign_looksAhead : LooksAhead sign := by
  intro a rest rest' read soft
  cases a with
  | nil =>
    have stops : Stops isSign rest := by
      intro c begins
      cases rest with
      | nil => cases begins
      | cons d rest =>
        cases begins
        by_cases isSigned : isSign c = true
        · simp only [isSign, Bool.or_eq_true, decide_eq_true_eq] at isSigned
          rcases isSigned with rfl | rfl <;> cases read
        · exact Bool.eq_false_iff.2 isSigned
    exact sign_of_stops (stops.soften soft fun c isSpace => by
      rcases space_cases isSpace with rfl | rfl | rfl | rfl <;> decide)
  | cons c a =>
    by_cases isSigned : isSign c = true
    · simp only [isSign, Bool.or_eq_true, decide_eq_true_eq] at isSigned
      rcases isSigned with rfl | rfl
      all_goals
        simp only [List.cons_append, sign, Prod.mk.injEq, List.cons.injEq, true_and] at read
        obtain ⟨rfl, -⟩ := read
        rfl
    · have stopped : sign (c :: (a ++ rest)) = ([], c :: (a ++ rest)) :=
        sign_of_stops (stops_cons _ (Bool.eq_false_iff.2 isSigned))
      rw [List.cons_append, stopped] at read
      cases read

/-- The letters that begin an exponent. -/
def isMark (c : Char) : Bool :=
  c = 'e' || c = 'E'

theorem exponent_of_mark {c : Char} (mark : isMark c = true) (cs : List Char) :
    exponent (c :: cs) = (c :: (andThen sign digits cs).1, (andThen sign digits cs).2) := by
  have isMarked : (decide (c = 'e') || decide (c = 'E')) = true := mark
  rw [exponent, if_pos isMarked]
  rfl

theorem exponent_of_stops (stops : Stops isMark rest) : exponent rest = ([], rest) := by
  cases rest with
  | nil => rfl
  | cons c rest =>
    have notMark : (decide (c = 'e') || decide (c = 'E')) = false := stops c rfl
    rw [exponent, notMark]
    rfl

theorem exponent_looksAhead : LooksAhead exponent := by
  intro a rest rest' read soft
  cases a with
  | nil =>
    have stops : Stops isMark rest := by
      intro c begins
      cases rest with
      | nil => cases begins
      | cons d rest =>
        cases begins
        by_cases mark : isMark c = true
        · rw [List.nil_append, exponent_of_mark mark] at read
          cases read
        · exact Bool.eq_false_iff.2 mark
    exact exponent_of_stops (stops.soften soft fun c isSpace => by
      rcases space_cases isSpace with rfl | rfl | rfl | rfl <;> decide)
  | cons c a =>
    by_cases mark : isMark c = true
    · rw [List.cons_append, exponent_of_mark mark, Prod.mk.injEq, List.cons.injEq] at read
      have tail : andThen sign digits (a ++ rest) = (a, rest) := Prod.ext read.1.2 read.2
      have again := sign_looksAhead.andThen digits_looksAhead sign_append tail soft
      rw [List.cons_append, exponent_of_mark mark, again]
    · have stopped : exponent (c :: (a ++ rest)) = ([], c :: (a ++ rest)) :=
        exponent_of_stops (stops_cons _ (Bool.eq_false_iff.2 mark))
      rw [List.cons_append, stopped] at read
      cases read

theorem numeral_looksAhead : LooksAhead numeral := by
  have parts : numeral = andThen digits (andThen fraction exponent) := by
    funext cs
    simp only [numeral, andThen, List.append_assoc]
  rw [parts]
  exact digits_looksAhead.andThen
    (fraction_looksAhead.andThen exponent_looksAhead fraction_append) (run_append _)

/-! ## Tokens -/

/-- The characters that no number may have right after it. -/
def spoilsNumber (c : Char) : Bool :=
  isWordChar c || c = '.'

theorem number_ok {cs : List Char} {l : Lexeme} :
    number cs = .ok l ↔
      l.kind = .number ∧ numeral cs = (l.text, l.rest) ∧ Stops spoilsNumber l.rest := by
  obtain ⟨text, left, read⟩ : ∃ text left, numeral cs = (text, left) := ⟨_, _, rfl⟩
  unfold number
  rw [read]
  cases left with
  | nil =>
    constructor
    · intro h
      cases h
      exact ⟨rfl, rfl, nofun⟩
    · rintro ⟨kind, same, -⟩
      obtain ⟨k, t, r⟩ := l
      cases kind
      cases same
      rfl
  | cons c left =>
    by_cases spoilt : spoilsNumber c = true
    · have isSpoilt : (isWordChar c || decide (c = '.')) = true := spoilt
      simp only [if_pos isSpoilt, reduceCtorEq, false_iff, not_and]
      intro _ same stops
      rw [Prod.mk.injEq] at same
      have good := stops c (by rw [← same.2]; rfl)
      rw [spoilt] at good
      cases good
    · have good : ¬ (isWordChar c || decide (c = '.')) = true := spoilt
      simp only [if_neg good]
      constructor
      · intro h
        cases h
        exact ⟨rfl, rfl, stops_cons _ (Bool.eq_false_iff.2 spoilt)⟩
      · rintro ⟨kind, same, -⟩
        obtain ⟨k, t, r⟩ := l
        cases kind
        cases same
        rfl

theorem number_softer {kind : Kind} (h : number (a ++ rest) = .ok ⟨kind, a, rest⟩)
    (soft : Softer rest rest') : number (a ++ rest') = .ok ⟨kind, a, rest'⟩ := by
  obtain ⟨isNumber, read, stops⟩ := number_ok.1 h
  refine number_ok.2 ⟨isNumber, numeral_looksAhead read soft, stops.soften soft ?_⟩
  intro c isSpace
  rw [spoilsNumber, wordChar_of_space c isSpace]
  rcases space_cases isSpace with rfl | rfl | rfl | rfl <;> decide

theorem identifier_softer {kind : Kind} (h : identifier (a ++ rest) = .ok ⟨kind, a, rest⟩)
    (some : a ≠ []) (soft : Softer rest rest') :
    identifier (a ++ rest') = .ok ⟨kind, a, rest'⟩ := by
  have word := run_looksAhead wordChar_of_space
  obtain ⟨c, a, rfl⟩ := List.exists_cons_of_ne_nil some
  by_cases dollar : c = '$'
  · subst dollar
    simp only [List.cons_append, identifier] at h ⊢
    split at h
    · cases h
    · rename_i named
      simp only [Except.ok.injEq, Lexeme.mk.injEq, List.cons.injEq, true_and] at h
      obtain ⟨rfl, text, left⟩ := h
      have again := word (Prod.ext text left) soft
      rw [text] at named
      rw [again, if_neg named]
  · have plain (cs : List Char) : identifier (c :: cs) =
        .ok ⟨.identifier, (run isWordChar (c :: cs)).1, (run isWordChar (c :: cs)).2⟩ := by
      unfold identifier
      split
      · rename_i shape
        exact absurd (List.cons.inj shape).1 dollar
      · rfl
    rw [List.cons_append, plain, Except.ok.injEq, Lexeme.mk.injEq, ← List.cons_append] at h
    have again := word (Prod.ext h.2.1 h.2.2) soft
    rw [List.cons_append, plain, ← List.cons_append, again, ← h.1]

/-- The operators as lists of characters. -/
def operatorTexts : List (List Char) :=
  operators.map String.toList

/-- Among the operators at the head of a text the longest is read. -/
theorem operatorAt?_eq_some {cs op : List Char} :
    operatorAt? cs = some op ↔ op ∈ operatorTexts ∧ op <+: cs ∧
      ∀ other ∈ operatorTexts, other <+: cs → other.length ≤ op.length := by
  have ordered : operatorTexts.Pairwise fun op later => later.length ≤ op.length := by decide
  have longest {op : List Char} (found : operatorAt? cs = some op) :
      op ∈ operatorTexts ∧ op <+: cs ∧
        ∀ other ∈ operatorTexts, other <+: cs → other.length ≤ op.length := by
    obtain ⟨begins, before, after, shape, missed⟩ := List.find?_eq_some_iff_append.1 found
    have shape : operatorTexts = before ++ op :: after := shape
    rw [shape] at ordered ⊢
    refine ⟨by simp, List.isPrefixOf_iff_prefix.1 begins, fun other mem begins' => ?_⟩
    rcases List.mem_append.1 mem with earlier | here
    · have not := missed other earlier
      simp [List.isPrefixOf_iff_prefix.2 begins'] at not
    · rcases List.mem_cons.1 here with rfl | later
      · exact Nat.le_refl _
      · exact (List.pairwise_cons.1 (List.pairwise_append.1 ordered).2.1).1 other later
  refine ⟨longest, ?_⟩
  rintro ⟨mem, begins, largest⟩
  have some : (operatorAt? cs).isSome = true :=
    List.find?_isSome.2 ⟨op, mem, List.isPrefixOf_iff_prefix.2 begins⟩
  obtain ⟨found, isFound⟩ := Option.isSome_iff_exists.1 some
  obtain ⟨mem', begins', largest'⟩ := longest isFound
  have same : found.length = op.length :=
    Nat.le_antisymm (largest found mem' begins') (largest' op mem begins)
  rw [isFound, (List.prefix_of_prefix_length_le begins' begins (Nat.le_of_eq same)).eq_of_length same]

/-- A longer operator is reached by adding one character at a time. -/
theorem operator_grows : ∀ op ∈ operatorTexts, ∀ longer ∈ operatorTexts, op <+: longer →
    op.length < longer.length → longer.take (op.length + 1) ∈ operatorTexts := by
  decide +kernel

theorem forall_mem_operator {p : Char → Bool}
    (all : (operatorTexts.all fun op => op.all fun c => !p c) = true) :
    ∀ op ∈ operatorTexts, ∀ c ∈ op, p c = false := by
  intro op mem c mem'
  simpa using List.all_eq_true.1 (List.all_eq_true.1 all op mem) c mem'

theorem space_not_mem_operator : ∀ op ∈ operatorTexts, ∀ c ∈ op, isSpace c = false :=
  forall_mem_operator (by decide)

theorem operatorAt?_softer (h : operatorAt? (a ++ rest) = some a) (soft : Softer rest rest') :
    operatorAt? (a ++ rest') = some a := by
  obtain ⟨mem, -, largest⟩ := operatorAt?_eq_some.1 h
  refine operatorAt?_eq_some.2 ⟨mem, List.prefix_append a rest', fun other mem' begins => ?_⟩
  rcases Nat.lt_or_ge a.length other.length with longer | short
  case inr => exact short
  have within : a <+: other :=
    List.prefix_of_prefix_length_le (List.prefix_append a rest') begins (Nat.le_of_lt longer)
  have grown := operator_grows a mem other mem' within longer
  obtain ⟨tail, rfl⟩ := within
  cases tail with
  | nil => simp at longer
  | cons c tail =>
    -- the next character of the longer operator also stands in the first text
    have next : c ∈ rest'.head? := by
      rw [List.prefix_append_right_inj] at begins
      obtain ⟨more, rfl⟩ := begins
      rfl
    have notSpace := space_not_mem_operator _ mem' c (by simp)
    have same : c ∈ rest.head? := (soft c next).resolve_right (by simp [notSpace])
    have begins' : a ++ [c] <+: a ++ rest := by
      cases rest with
      | nil => cases same
      | cons d rest =>
        cases same
        exact ⟨rest, by simp⟩
    rw [List.take_length_add_append, List.take_succ_cons, List.take_zero] at grown
    have bound := largest (a ++ [c]) grown begins'
    rw [List.length_append, List.length_singleton] at bound
    omega

theorem operator_softer {c : Char} {t : List Char} {kind : Kind}
    (h : operator c (t ++ rest) = .ok ⟨kind, c :: t, rest⟩) (soft : Softer rest rest') :
    operator c (t ++ rest') = .ok ⟨kind, c :: t, rest'⟩ := by
  unfold operator at h ⊢
  split at h
  · rename_i op found
    simp only [Except.ok.injEq, Lexeme.mk.injEq] at h
    obtain ⟨rfl, rfl, -⟩ := h
    rw [← List.cons_append] at found ⊢
    rw [operatorAt?_softer found soft]
    simp
  · cases h

theorem closeQuote_rest {quote : Char} {cs body : List Char}
    (h : closeQuote quote cs = some (body, rest)) (rest' : List Char) :
    closeQuote quote (body ++ rest') = some (body, rest') := by
  fun_induction closeQuote quote cs generalizing body rest with
  | case1 => cases h
  | case2 => cases h
  | case3 d ds ih =>
    obtain ⟨⟨b, r⟩, found, same⟩ := Option.map_eq_some_iff.1 h
    cases same
    rw [List.cons_append, List.cons_append, closeQuote.eq_def]
    simp [ih found]
  | case4 cs notEscape =>
    cases h
    rw [List.singleton_append, closeQuote.eq_def]
    simp [notEscape]
  | case5 c cs notEscape notQuote ih =>
    obtain ⟨⟨b, r⟩, found, same⟩ := Option.map_eq_some_iff.1 h
    cases same
    rw [List.cons_append, closeQuote.eq_def]
    simp [notEscape, notQuote, ih found]

theorem startsWithDigit_eq_false {cs : List Char} :
    startsWithDigit cs = false ↔ Stops isAsciiDigit cs := by
  cases cs with
  | nil => exact ⟨fun _ => nofun, fun _ => rfl⟩
  | cons c cs => exact ⟨fun notDigit => stops_cons cs notDigit, fun stops => stops c rfl⟩

theorem isWordChar_of_asciiDigit {c : Char} (digit : isAsciiDigit c = true) :
    isWordChar c = true := by
  have bounds : '0' ≤ c ∧ c ≤ '9' := by simpa [isAsciiDigit] using digit
  simp only [Char.le_def, UInt32.le_iff_toNat_le] at bounds
  have small : c.toNat < 0x80 := Nat.lt_of_le_of_lt bounds.2 (by decide)
  simp [isWordChar, isDigit, if_pos small, digit]

/-- A point is the beginning of a number only if the number goes on with a digit. -/
theorem point_softer {t : List Char} {kind : Kind}
    (h : (if startsWithDigit (t ++ rest) = true then number ('.' :: (t ++ rest))
      else .ok ⟨.dot, ['.'], t ++ rest⟩) = .ok ⟨kind, '.' :: t, rest⟩) (soft : Softer rest rest') :
    (if startsWithDigit (t ++ rest') = true then number ('.' :: (t ++ rest'))
      else .ok ⟨.dot, ['.'], t ++ rest'⟩) = .ok ⟨kind, '.' :: t, rest'⟩ := by
  by_cases goesOn : startsWithDigit (t ++ rest) = true
  · rw [if_pos goesOn, ← List.cons_append] at h
    have stops := (number_ok.1 h).2.2
    have goesOn' : startsWithDigit (t ++ rest') = true := by
      cases t with
      | cons d t => exact goesOn
      | nil =>
        cases rest with
        | nil => cases goesOn
        | cons d rest =>
          have spoilt : spoilsNumber d = false := stops d rfl
          rw [spoilsNumber, isWordChar_of_asciiDigit goesOn] at spoilt
          cases spoilt
    rw [if_pos goesOn', ← List.cons_append]
    exact number_softer h soft
  · rw [if_neg goesOn] at h
    simp only [Except.ok.injEq, Lexeme.mk.injEq, List.cons.injEq, true_and] at h
    obtain ⟨rfl, rfl, -⟩ := h
    rw [List.nil_append, Bool.not_eq_true, startsWithDigit_eq_false] at goesOn
    have stops := startsWithDigit_eq_false.2 (goesOn.soften soft asciiDigit_of_space)
    rw [List.nil_append, stops]
    rfl

/-- An equals sign is an operator only with another one after it. -/
theorem equals_softer {t : List Char} {kind : Kind}
    (h : (if (t ++ rest).head? = some '=' then operator '=' (t ++ rest)
      else .ok ⟨.assign, ['='], t ++ rest⟩) = .ok ⟨kind, '=' :: t, rest⟩) (soft : Softer rest rest') :
    (if (t ++ rest').head? = some '=' then operator '=' (t ++ rest')
      else .ok ⟨.assign, ['='], t ++ rest'⟩) = .ok ⟨kind, '=' :: t, rest'⟩ := by
  by_cases goesOn : (t ++ rest).head? = some '='
  · rw [if_pos goesOn] at h
    have goesOn' : (t ++ rest').head? = some '=' := by
      cases t with
      | cons d t => exact goesOn
      | nil =>
        -- a single equals sign is not among the operators
        unfold operator at h
        split at h
        · rename_i op found
          cases h
          have listed := (operatorAt?_eq_some.1 found).1
          exact absurd listed (by decide)
        · cases h
    rw [if_pos goesOn']
    exact operator_softer h soft
  · rw [if_neg goesOn] at h
    simp only [Except.ok.injEq, Lexeme.mk.injEq, List.cons.injEq, true_and] at h
    obtain ⟨rfl, rfl, -⟩ := h
    have notEquals : ¬ ([] ++ rest').head? = some '=' := by
      intro begins
      rcases soft '=' begins with same | isSpace
      · exact goesOn same
      · cases isSpace
    rw [if_neg notEquals]
    rfl

/-- A token is read in the same way before a text that begins with the same character, with a space
or not at all. -/
theorem lexeme_softer {c : Char} {t : List Char} {kind : Kind}
    (h : lexeme c (t ++ rest) = .ok ⟨kind, c :: t, rest⟩) (soft : Softer rest rest') :
    lexeme c (t ++ rest') = .ok ⟨kind, c :: t, rest'⟩ := by
  unfold lexeme at h ⊢
  by_cases quoted : isQuote c = true
  · rw [if_pos quoted] at h ⊢
    split at h
    · rename_i body left closed
      simp only [Except.ok.injEq, Lexeme.mk.injEq, List.cons.injEq, true_and] at h
      obtain ⟨rfl, rfl, rfl⟩ := h
      rw [closeQuote_rest closed rest']
    · cases h
  rw [if_neg quoted] at h ⊢
  by_cases digit : isAsciiDigit c = true
  · rw [if_pos digit, ← List.cons_append] at h ⊢
    exact number_softer h soft
  rw [if_neg digit] at h ⊢
  by_cases point : c = '.'
  · subst point
    exact point_softer h soft
  rw [if_neg point] at h ⊢
  by_cases equals : c = '='
  · subst equals
    exact equals_softer h soft
  rw [if_neg equals] at h ⊢
  by_cases operates : isOperatorStart c = true
  · rw [if_pos operates] at h ⊢
    exact operator_softer h soft
  rw [if_neg operates] at h ⊢
  by_cases named : (decide (c = '$') || isWordChar c) = true
  · rw [if_pos named, ← List.cons_append] at h ⊢
    exact identifier_softer h (List.cons_ne_nil c t) soft
  rw [if_neg named] at h ⊢
  -- all other tokens are one character
  cases found : punctuation? c with
  | some kind' =>
    simp only [found, Except.ok.injEq, Lexeme.mk.injEq, List.cons.injEq, true_and] at h ⊢
    obtain ⟨rfl, rfl, -⟩ := h
    exact ⟨rfl, rfl, rfl⟩
  | none =>
    simp only [found] at h ⊢
    by_cases printable : (decide (c.toNat < 0x80) && isGraphic c) = true
    · rw [if_pos printable] at h ⊢
      simp only [Except.ok.injEq, Lexeme.mk.injEq, List.cons.injEq, true_and] at h ⊢
      obtain ⟨rfl, rfl, -⟩ := h
      exact ⟨rfl, rfl, rfl⟩
    · rw [if_neg printable] at h
      cases h

theorem lexeme_shape {c : Char} {cs : List Char} {l : Lexeme} (h : lexeme c cs = .ok l) :
    ∃ t, l.text = c :: t ∧ cs = t ++ l.rest := by
  have whole := lexeme_append h
  obtain ⟨d, t, shape⟩ := List.exists_cons_of_ne_nil (lexeme_ne_nil h)
  rw [shape, List.cons_append] at whole
  cases whole
  exact ⟨t, shape, rfl⟩

end PageBinding.Token
