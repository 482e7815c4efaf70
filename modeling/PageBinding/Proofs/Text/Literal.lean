import PageBinding.Proofs.Text.Raw
import PageBinding.Proofs.Token.Composition

/-!
Where the escapes of a literal are. A quote is closed by a scan that steps over one character after
each backslash, and the inside is read by one that steps over the digits of a code too, be it
character by character or byte by byte. All take the same backslashes for the beginning of an escape,
those with an even number of backslashes directly before them (`Unescaped`): digits are no
backslashes, and no byte of a longer character is one, nor is a byte that belongs to no character.
-/
namespace PageBinding.Literal

open Text

variable {c : Char} {cs ds : List Char} {p : Char ⊕ UInt8} {ps : List (Char ⊕ UInt8)}

/-! ## Backslashes in a row -/

/-- How many backslashes a text ends with. -/
def backslashes (cs : List Char) : Nat :=
  (cs.reverse.takeWhile (· = '\\')).length

/-- What stands after a text is not escaped. -/
def Unescaped (before : List Char) : Prop :=
  backslashes before % 2 = 0

theorem backslashes_cons (c : Char) (cs : List Char) :
    backslashes (c :: cs) =
      if backslashes cs = cs.length ∧ c = '\\' then cs.length + 1 else backslashes cs := by
  unfold backslashes
  rw [List.reverse_cons, List.takeWhile_append, List.length_reverse]
  by_cases all : (cs.reverse.takeWhile (· = '\\')).length = cs.length
  · by_cases isBackslash : c = '\\' <;> simp [all, isBackslash]
  · simp [all]

theorem unescaped_nil : Unescaped [] := rfl

theorem not_unescaped_backslash : ¬ Unescaped ['\\'] := by
  simp [Unescaped, backslashes]

theorem unescaped_plain (plain : c ≠ '\\') : Unescaped (c :: cs) ↔ Unescaped cs := by
  unfold Unescaped
  rw [backslashes_cons, if_neg fun both => plain both.2]

theorem unescaped_pair : Unescaped ('\\' :: c :: cs) ↔ Unescaped cs := by
  have bound : backslashes cs ≤ cs.length := by
    simpa [backslashes] using (List.takeWhile_sublist (l := cs.reverse) _).length_le
  unfold Unescaped
  rw [backslashes_cons, backslashes_cons, List.length_cons]
  by_cases all : backslashes cs = cs.length ∧ c = '\\'
  · rw [if_pos all, if_pos ⟨rfl, rfl⟩, all.1]
    omega
  · rw [if_neg all, if_neg fun longer => (by omega)]

theorem unescaped_append (plain : ∀ d ∈ ds, d ≠ '\\') : Unescaped (ds ++ cs) ↔ Unescaped cs := by
  induction ds with
  | nil => rfl
  | cons d ds ih =>
    rw [List.forall_mem_cons] at plain
    rw [List.cons_append, unescaped_plain plain.1, ih plain.2]

/-! ## Codes -/

/-- How many digits a code has that begins with a character. -/
def codeWidth? (c : Char) : Option Nat :=
  if c = 'x' then some 2 else if c = 'u' then some 4 else none

/-- A text begins with so many hexadecimal digits. -/
def Spelled (width : Nat) (cs : List Char) : Prop :=
  width ≤ cs.length ∧ ∀ d ∈ cs.take width, (hexValue? d).isSome = true

/-- Somewhere in a text, a backslash that is not escaped begins a code without its digits. -/
def LacksCode (body : List Char) : Prop :=
  ∃ before c after width, body = before ++ '\\' :: c :: after ∧ Unescaped before ∧
    codeWidth? c = some width ∧ ¬ Spelled width after

theorem not_lacksCode_nil : ¬ LacksCode [] := by
  rintro ⟨before, c, after, width, shape, -⟩
  simp at shape

theorem lacksCode_plain (plain : c ≠ '\\') : LacksCode (c :: cs) ↔ LacksCode cs := by
  constructor
  · rintro ⟨before, d, after, width, shape, unescaped, code⟩
    cases before with
    | nil =>
      rw [List.nil_append, List.cons.injEq] at shape
      exact absurd shape.1 plain
    | cons b before =>
      rw [List.cons_append, List.cons.injEq] at shape
      obtain ⟨rfl, rfl⟩ := shape
      exact ⟨before, d, after, width, rfl, (unescaped_plain plain).1 unescaped, code⟩
  · rintro ⟨before, d, after, width, rfl, unescaped, code⟩
    exact ⟨c :: before, d, after, width, rfl, (unescaped_plain plain).2 unescaped, code⟩

theorem lacksCode_pair : LacksCode ('\\' :: c :: cs) ↔
    (∃ width, codeWidth? c = some width ∧ ¬ Spelled width cs) ∨ LacksCode cs := by
  constructor
  · rintro ⟨before, d, after, width, shape, unescaped, code⟩
    rcases before with - | ⟨b, - | ⟨b', before⟩⟩
    · cases shape
      exact .inl ⟨width, code⟩
    · cases shape
      exact absurd unescaped not_unescaped_backslash
    · cases shape
      exact .inr ⟨before, d, after, width, rfl, unescaped_pair.1 unescaped, code⟩
  · rintro (⟨width, code⟩ | ⟨before, d, after, width, rfl, unescaped, code⟩)
    · exact ⟨[], c, cs, width, rfl, unescaped_nil, code⟩
    · exact ⟨'\\' :: c :: before, d, after, width, rfl, unescaped_pair.2 unescaped, code⟩

theorem lacksCode_append (plain : ∀ d ∈ ds, d ≠ '\\') : LacksCode (ds ++ cs) ↔ LacksCode cs := by
  induction ds with
  | nil => rfl
  | cons d ds ih =>
    rw [List.forall_mem_cons] at plain
    rw [List.cons_append, lacksCode_plain plain.1, ih plain.2]

/-- The number that so many digits spell after the digits of `n`, and what stands after them. -/
def spell? : (width : Nat) → (n : Nat) → List Char → Option (Nat × List Char)
  | 0, n, cs => some (n, cs)
  | _ + 1, _, [] => none
  | width + 1, n, d :: cs =>
    match hexValue? d with
    | some v => spell? width (16 * n + v) cs
    | none => none

theorem spell?_cases (width n : Nat) (cs : List Char) :
    (∃ m ds rest, spell? width n cs = some (m, rest) ∧ cs = ds ++ rest ∧ ds.length = width ∧
        ∀ d ∈ ds, (hexValue? d).isSome = true) ∨
      spell? width n cs = none ∧ ¬ Spelled width cs := by
  induction width generalizing n cs with
  | zero => exact .inl ⟨n, [], cs, rfl, rfl, rfl, by simp⟩
  | succ width ih =>
    cases cs with
    | nil => exact .inr ⟨rfl, by simp [Spelled]⟩
    | cons d cs =>
      cases digit : hexValue? d with
      | none => exact .inr ⟨by simp [spell?, digit], by simp [Spelled, digit]⟩
      | some v =>
        simp only [spell?, digit]
        rcases ih (16 * n + v) cs with ⟨m, ds, rest, found, rfl, length, all⟩ | ⟨none, short⟩
        · refine .inl ⟨m, d :: ds, rest, found, rfl, by simp [length], ?_⟩
          exact List.forall_mem_cons.2 ⟨by rw [digit]; rfl, all⟩
        · refine .inr ⟨none, fun spelled => short ?_⟩
          rw [Spelled, List.length_cons, List.take_succ_cons, List.forall_mem_cons] at spelled
          exact ⟨by omega, spelled.2.2⟩

theorem hexValue?_backslash {d : Char} (digit : (hexValue? d).isSome = true) : d ≠ '\\' := by
  rintro rfl
  cases digit

/-! ## Reading characters -/

/-- What a piece stands for after a backslash, if it does not begin a code. -/
def escaped : Char ⊕ UInt8 → Char ⊕ UInt8
  | .inl c => .inl (simpleEscape c)
  | .inr b => .inr b

theorem decodePieces_plain (plain : pieceChar p ≠ '\\') (ps : List (Char ⊕ UInt8)) :
    decodePieces (p :: ps) = (decodePieces ps).map (p :: ·) := by
  cases p with
  | inl c =>
    have other : c ≠ '\\' := plain
    simp [decodePieces, other]
    rfl
  | inr b => rfl

theorem decodePieces_simple (simple : codeWidth? (pieceChar p) = none) (ps : List (Char ⊕ UInt8)) :
    decodePieces (.inl '\\' :: p :: ps) = (decodePieces ps).map (escaped p :: ·) := by
  cases p with
  | inl c =>
    have other : c ≠ 'x' ∧ c ≠ 'u' := by
      unfold codeWidth? pieceChar at simple
      grind
    simp [decodePieces, other]
    rfl
  | inr b => rfl

theorem decodePieces_code {width : Nat} (code : codeWidth? (pieceChar p) = some width)
    (ps : List (Char ⊕ UInt8)) :
    decodePieces (.inl '\\' :: p :: ps) =
      (spell? width 0 (ps.map pieceChar)).elim (.error (.badCode (pieceChar p))) fun found =>
        (decodePieces (ps.drop width)).map (.inl (charOfCode found.1) :: ·) := by
  have isCode : p = .inl 'x' ∧ width = 2 ∨ p = .inl 'u' ∧ width = 4 := by
    cases p with
    | inl c =>
      unfold codeWidth? pieceChar at code
      grind
    | inr b => cases code
  rcases isCode with ⟨rfl, rfl⟩ | ⟨rfl, rfl⟩
  · rcases ps with - | ⟨a, - | ⟨b, ps⟩⟩
    · rfl
    · simp only [List.map_cons, spell?]
      cases hexValue? (pieceChar a) <;> rfl
    · simp only [List.map_cons, decodePieces, spell?, code?, List.foldl_cons, List.foldl_nil]
      cases hexValue? (pieceChar a) <;> cases hexValue? (pieceChar b) <;> rfl
  · rcases ps with - | ⟨a, - | ⟨b, - | ⟨c, - | ⟨d, ps⟩⟩⟩⟩
    · rfl
    · simp only [List.map_cons, spell?]
      cases hexValue? (pieceChar a) <;> rfl
    · simp only [List.map_cons, spell?]
      cases hexValue? (pieceChar a) <;> cases hexValue? (pieceChar b) <;> rfl
    · simp only [List.map_cons, spell?]
      cases hexValue? (pieceChar a) <;> cases hexValue? (pieceChar b) <;>
        cases hexValue? (pieceChar c) <;> rfl
    · simp only [List.map_cons, decodePieces, spell?, code?, List.foldl_cons, List.foldl_nil]
      cases hexValue? (pieceChar a) <;> cases hexValue? (pieceChar b) <;>
        cases hexValue? (pieceChar c) <;> cases hexValue? (pieceChar d) <;> rfl

/-- A text of characters is read alike, character by character and piece by piece. -/
theorem decodePieces_chars (cs : List Char) :
    decodePieces (cs.map .inl) = (decode cs).map (List.map .inl) := by
  have pushed (read : Except UnquoteError (List Char)) (c : Char) :
      (do let ps ← read.map (List.map Sum.inl); return .inl c :: ps :
        Except _ (List (Char ⊕ UInt8))) = (do return c :: (← read)).map (List.map .inl) := by
    cases read <;> rfl
  fun_induction decode cs with
  | case1 => rfl
  | case2 => rfl
  | case3 a b cs n found ih =>
    rw [← pushed, ← ih]
    simp [decodePieces, pieceChar, found]
  | case4 a b cs none => simp [decodePieces, pieceChar, none, Except.map]
  | case5 a b c d cs n found ih =>
    rw [← pushed, ← ih]
    simp [decodePieces, pieceChar, found]
  | case6 a b c d cs none => simp [decodePieces, pieceChar, none, Except.map]
  | case7 c cs two four isCode =>
    rw [Bool.or_eq_true, decide_eq_true_eq, decide_eq_true_eq] at isCode
    rcases isCode with rfl | rfl
    · rcases cs with - | ⟨a, - | ⟨b, cs⟩⟩
      · rfl
      · rfl
      · exact (two a b cs rfl rfl).elim
    · rcases cs with - | ⟨a, - | ⟨b, - | ⟨c, - | ⟨d, cs⟩⟩⟩⟩
      · rfl
      · rfl
      · rfl
      · rfl
      · exact (four a b c d cs rfl rfl).elim
  | case8 c cs two four noCode ih =>
    have simple : codeWidth? (pieceChar (.inl c)) = none := by
      unfold codeWidth? pieceChar
      grind
    rw [← pushed, ← ih]
    exact decodePieces_simple simple _
  | case9 c cs lone two four pair ih =>
    have plain : pieceChar (.inl c) ≠ '\\' := by
      rintro rfl
      cases cs with
      | nil => exact lone rfl rfl
      | cons d cs => exact pair d cs rfl rfl
    rw [← pushed, ← ih]
    exact decodePieces_plain plain _

theorem pieceChar_eq_backslash : pieceChar p = '\\' ↔ p = .inl '\\' := by
  cases p with
  | inl c => simp [pieceChar]
  | inr b => simp [pieceChar, replacement]

/-- The inside of a literal by its escapes. After an escape every end of what is left may follow, as
an escape can have digits. -/
theorem body_induction {P : List (Char ⊕ UInt8) → Prop} (nil : P []) (lone : P [.inl '\\'])
    (plain : ∀ p ps, pieceChar p ≠ '\\' → P ps → P (p :: ps))
    (escape : ∀ p ps, (∀ rest, rest <:+ ps → P rest) → P (.inl '\\' :: p :: ps))
    (ps : List (Char ⊕ UInt8)) : P ps := by
  induction length : ps.length using Nat.strongRecOn generalizing ps with
  | _ n ih =>
    subst length
    cases ps with
    | nil => exact nil
    | cons p ps =>
      by_cases isBackslash : pieceChar p = '\\'
      · obtain rfl := pieceChar_eq_backslash.1 isBackslash
        cases ps with
        | nil => exact lone
        | cons p ps =>
          refine escape p ps fun rest isEnd => ih rest.length ?_ rest rfl
          have shorter := isEnd.length_le
          simp only [List.length_cons]
          omega
      · exact plain p ps isBackslash (ih ps.length (by simp) ps rfl)

/-- A text was read, or it could not be since a code lacks its digits. -/
def Agrees {α : Type} (lacks : Prop) (read : Except UnquoteError α) : Prop :=
  (¬ lacks ∧ ∃ a, read = .ok a) ∨
    lacks ∧ ∃ c, (codeWidth? c).isSome = true ∧ read = .error (.badCode c)

theorem Agrees.map {α : Type} {lacks : Prop} {read : Except UnquoteError α} (h : Agrees lacks read)
    (f : α → α) : Agrees lacks (read.map f) := by
  obtain ⟨complete, a, rfl⟩ | ⟨incomplete, c, code, rfl⟩ := h
  · exact .inl ⟨complete, f a, rfl⟩
  · exact .inr ⟨incomplete, c, code, rfl⟩

/-- The digits that begin pieces, if they do so. -/
theorem digits_cases (width : Nat) (ps : List (Char ⊕ UInt8)) :
    (∃ n ds rest, (spell? width 0 (ps.map pieceChar)).map Prod.fst = some n ∧ ps = ds ++ rest ∧
        ds.length = width ∧ ∀ d ∈ ds, (hexValue? (pieceChar d)).isSome = true) ∨
      spell? width 0 (ps.map pieceChar) = none ∧ ¬ Spelled width (ps.map pieceChar) := by
  rcases spell?_cases width 0 (ps.map pieceChar) with ⟨n, ds, rest, found, parts, length, digits⟩ | none
  · obtain ⟨ds, rest, rfl, rfl, rfl⟩ := List.map_eq_append_iff.1 parts
    rw [List.length_map] at length
    exact .inl ⟨n, ds, rest, by rw [found]; rfl, rfl, length, List.forall_mem_map.1 digits⟩
  · exact .inr none

/-- If what stands after a text is not escaped, the text is read unless a code lacks its digits. -/
theorem decodePieces_agrees (closed : Unescaped (ps.map pieceChar)) :
    Agrees (LacksCode (ps.map pieceChar)) (decodePieces ps) := by
  induction ps using body_induction with
  | nil => exact .inl ⟨not_lacksCode_nil, [], rfl⟩
  | lone => exact absurd closed not_unescaped_backslash
  | plain p ps plain ih =>
    rw [List.map_cons] at closed ⊢
    rw [lacksCode_plain plain, decodePieces_plain plain]
    exact (ih ((unescaped_plain plain).1 closed)).map _
  | escape p ps ih =>
    have shape : (Sum.inl '\\' :: p :: ps).map pieceChar =
        '\\' :: pieceChar p :: ps.map pieceChar := rfl
    rw [shape, unescaped_pair] at closed
    rw [shape, lacksCode_pair]
    cases code : codeWidth? (pieceChar p) with
    | none =>
      simp only [decodePieces_simple code, reduceCtorEq, false_and, exists_false, false_or]
      exact (ih ps (List.suffix_refl _) closed).map _
    | some width =>
      simp only [Option.some.injEq, exists_eq_left']
      rw [decodePieces_code code]
      rcases digits_cases width ps with ⟨n, ds, rest, found, rfl, length, digits⟩ | ⟨none, short⟩
      · obtain ⟨⟨n, after⟩, spelt, rfl⟩ := Option.map_eq_some_iff.1 found
        have plain : ∀ d ∈ ds.map pieceChar, d ≠ '\\' :=
          List.forall_mem_map.2 fun d mem => hexValue?_backslash (digits d mem)
        have spelled : Spelled width ((ds ++ rest).map pieceChar) := by
          have own : ((ds ++ rest).map pieceChar).take width = ds.map pieceChar := by
            rw [List.map_append, ← length, ← List.length_map, List.take_left]
          refine ⟨by simp [← length], ?_⟩
          rw [own]
          exact List.forall_mem_map.2 digits
        rw [List.map_append, unescaped_append plain] at closed
        simp only [spelled, not_true_eq_false, false_or, spelt, Option.elim_some]
        rw [List.map_append, lacksCode_append plain, ← length, List.drop_left]
        exact (ih rest (List.suffix_append _ _) closed).map _
      · rw [none]
        exact .inr ⟨.inl short, pieceChar p, by rw [code]; rfl, rfl⟩

/-! ## Reading bytes -/

/-- Why bytes cannot be read as a literal. -/
inductive ByteError
  /-- There is no byte where one is looked for. -/
  | past
  /-- The text cannot be read. -/
  | unread (cause : UnquoteError)
  deriving DecidableEq

/-- The byte at a place. -/
def byteAt (bytes : List UInt8) (i : Nat) : Except ByteError UInt8 :=
  (bytes[i]?).elim (.error .past) .ok

/-- The number that so many bytes from a place spell after the digits of `n`. -/
def codeFrom (introducer : Char) (bytes : List UInt8) :
    (width i n : Nat) → Except ByteError Nat
  | 0, _, n => .ok n
  | width + 1, i, n => do
    let b ← byteAt bytes i
    (hexValue? (.ofUInt8 b)).elim (.error (.unread (.badCode introducer))) fun v =>
      codeFrom introducer bytes width (i + 1) (16 * n + v)

/-- The bytes that the inside of a literal stands for from a place on, read byte by byte. -/
def readFrom (bytes : List UInt8) (i : Nat) : Except ByteError (List UInt8) :=
  if i < bytes.length then do
    let b ← byteAt bytes i
    if Char.ofUInt8 b = '\\' then
      if i + 1 = bytes.length then .error (.unread .badEscape)
      else
        let b ← byteAt bytes (i + 1)
        let c := Char.ofUInt8 b
        match codeWidth? c with
        | none => (readFrom bytes (i + 2)).map ((simpleEscape c).toUInt8 :: ·)
        | some width =>
          if i + 2 + width ≤ bytes.length then
            let n ← codeFrom c bytes width (i + 2) 0
            (readFrom bytes (i + 2 + width)).map (String.utf8EncodeChar (charOfCode n) ++ ·)
          else .error (.unread (.badCode c))
    else (readFrom bytes (i + 1)).map (b :: ·)
  else .ok []
termination_by bytes.length - i

/-- The bytes that a literal, quotes included, stands for, read byte by byte. -/
def unquoteBytes (bytes : List UInt8) : Except ByteError (List UInt8) :=
  if bytes.length < 2 then .error (.unread .badQuoting) else readFrom bytes.tail.dropLast 0

/-- What was read, in bytes. -/
def inBytes : Except UnquoteError (List (Char ⊕ UInt8)) → Except ByteError (List UInt8)
  | .ok ps => .ok (ps.flatMap pieceBytes)
  | .error cause => .error (.unread cause)

theorem ok_bind {ε α β : Type} (a : α) (f : α → Except ε β) : (Except.ok a >>= f) = f a := rfl

theorem byteAt_length (before : List UInt8) (b : UInt8) (rest : List UInt8) :
    byteAt (before ++ b :: rest) before.length = .ok b := by
  simp [byteAt]

theorem backslash_byte : Char.ofUInt8 0x5c = '\\' := rfl

theorem readFrom_nil (before : List UInt8) : readFrom before before.length = .ok [] := by
  rw [readFrom, if_neg (Nat.lt_irrefl _)]

/-- Bytes that are no backslashes are copied. -/
theorem readFrom_append {bytes : List UInt8} (plain : ∀ b ∈ bytes, Char.ofUInt8 b ≠ '\\')
    (before rest : List UInt8) :
    readFrom (before ++ (bytes ++ rest)) before.length =
      (readFrom (before ++ bytes ++ rest) (before ++ bytes).length).map (bytes ++ ·) := by
  induction bytes generalizing before with
  | nil =>
    rw [List.append_nil, List.nil_append]
    cases readFrom (before ++ rest) before.length <;> rfl
  | cons b bytes ih =>
    rw [List.forall_mem_cons] at plain
    have inside : before.length < (before ++ b :: (bytes ++ rest)).length := by simp
    have next := ih plain.2 (before ++ [b])
    simp only [List.append_assoc, List.cons_append, List.nil_append, List.length_append,
      List.length_cons, List.length_nil, Nat.zero_add] at next ⊢
    rw [readFrom, if_pos inside, byteAt_length, ok_bind, if_neg plain.1, next]
    cases readFrom (before ++ b :: (bytes ++ rest)) _ <;> rfl

theorem readFrom_lone (before : List UInt8) :
    readFrom (before ++ [0x5c]) before.length = .error (.unread .badEscape) := by
  have inside : before.length < (before ++ [0x5c]).length := by simp
  rw [readFrom, if_pos inside, byteAt_length, ok_bind, if_pos backslash_byte, if_pos (by simp)]

/-- A backslash and the byte after it. -/
theorem readFrom_backslash (before : List UInt8) (b : UInt8) (rest : List UInt8) :
    readFrom (before ++ 0x5c :: b :: rest) before.length =
      (codeWidth? (.ofUInt8 b)).elim
        ((readFrom (before ++ [0x5c, b] ++ rest) (before ++ [0x5c, b]).length).map
          ((simpleEscape (.ofUInt8 b)).toUInt8 :: ·))
        fun width =>
          if width ≤ rest.length then do
            let n ← codeFrom (.ofUInt8 b) (before ++ [0x5c, b] ++ rest) width
              (before ++ [0x5c, b]).length 0
            (readFrom (before ++ [0x5c, b] ++ rest) ((before ++ [0x5c, b]).length + width)).map
              (String.utf8EncodeChar (charOfCode n) ++ ·)
          else .error (.unread (.badCode (.ofUInt8 b))) := by
  have shape : before ++ 0x5c :: b :: rest = before ++ [0x5c, b] ++ rest := by simp
  have inside : before.length < (before ++ 0x5c :: b :: rest).length := by simp
  have more : before.length + 1 ≠ (before ++ 0x5c :: b :: rest).length := by simp
  have next : byteAt (before ++ 0x5c :: b :: rest) (before.length + 1) = .ok b := by simp [byteAt]
  have fits (width : Nat) : before.length + 2 + width ≤ (before ++ 0x5c :: b :: rest).length ↔
      width ≤ rest.length := by
    simp only [List.length_append, List.length_cons]
    omega
  rw [readFrom, if_pos inside, byteAt_length, ok_bind, if_pos backslash_byte, if_neg more, next,
    ok_bind]
  simp only [fits]
  rw [shape, List.length_append]
  cases codeWidth? (.ofUInt8 b) <;> rfl

/-! ## Characters in bytes -/

theorem toNat_ofUInt8 (b : UInt8) : (Char.ofUInt8 b).toNat = b.toNat :=
  UInt8.toNat_toUInt32 b

theorem toUInt8_ofUInt8 (b : UInt8) : (Char.ofUInt8 b).toUInt8 = b :=
  UInt8.toUInt8_toUInt32 b

theorem ascii_bytes (ascii : c.toNat < 0x80) :
    String.utf8EncodeChar c = [c.toUInt8] ∧ Char.ofUInt8 c.toUInt8 = c := by
  have small : c.val.toNat ≤ 0x7f := Nat.le_of_lt_succ ascii
  have number : c.toUInt8.toNat = c.toNat := by
    have cut : c.toUInt8.toNat = c.toNat % 256 := rfl
    omega
  constructor
  · rw [String.utf8EncodeChar, if_pos small]
    rfl
  · exact Char.toNat_inj.1 ((toNat_ofUInt8 _).trans number)

theorem wide_bytes (wide : 0x80 ≤ c.toNat) :
    ∀ b ∈ String.utf8EncodeChar c, 0x80 ≤ (Char.ofUInt8 b).toNat := by
  have large : ¬ c.val.toNat ≤ 0x7f := Nat.not_le.2 wide
  simp only [String.utf8EncodeChar, if_neg large, toNat_ofUInt8]
  split
  · simp [UInt8.toNat_ofNat']
    omega
  · split
    · simp [UInt8.toNat_ofNat']
      omega
    · simp [UInt8.toNat_ofNat']
      omega

theorem hexValue?_wide (wide : 0x80 ≤ c.toNat) : hexValue? c = none := by
  have above (d : Char) (ascii : d.toNat < 0x80) : ¬ c ≤ d := by
    rw [Char.le_def, UInt32.le_iff_toNat_le]
    exact Nat.not_le.2 (Nat.lt_of_lt_of_le ascii wide)
  simp [hexValue?, above '9' (by decide), above 'f' (by decide), above 'F' (by decide)]

theorem ne_of_wide (wide : 0x80 ≤ c.toNat) {d : Char} (ascii : d.toNat < 0x80) : c ≠ d := by
  rintro rfl
  exact Nat.not_lt.2 wide ascii

theorem codeWidth?_wide (wide : 0x80 ≤ c.toNat) : codeWidth? c = none := by
  rw [codeWidth?, if_neg (ne_of_wide wide (by decide)), if_neg (ne_of_wide wide (by decide))]

theorem simpleEscape_wide (wide : 0x80 ≤ c.toNat) : simpleEscape c = c := by
  unfold simpleEscape
  split <;> simp at wide ⊢

theorem simpleEscape_ascii (ascii : c.toNat < 0x80) : (simpleEscape c).toNat < 0x80 := by
  unfold simpleEscape
  split <;> simp [ascii]

/-- The bytes that belong to no character are none of ASCII characters. -/
def StraysWide (ps : List (Char ⊕ UInt8)) : Prop :=
  ∀ b, .inr b ∈ ps → 0x80 ≤ (Char.ofUInt8 b).toNat

theorem straysWide_pieces (bytes : List UInt8) : StraysWide (pieces bytes) := by
  induction bytes using pieces_induction with
  | nil => exact fun b mem => by cases mem
  | char c rest ih =>
    intro b mem
    rw [pieces_char] at mem
    exact ih b (List.mem_of_ne_of_mem (by simp) mem)
  | stray b rest none ih =>
    intro b' mem
    rw [pieces_stray none, List.mem_cons] at mem
    rcases mem with same | mem
    · cases same
      refine Nat.le_of_not_lt fun ascii => ?_
      have single : String.utf8EncodeChar (Char.ofUInt8 b) = [b] := by
        rw [(ascii_bytes ascii).1, toUInt8_ofUInt8]
      have found : firstChar? (b :: rest) = some (Char.ofUInt8 b) :=
        firstChar?_eq_some_iff.2 (by rw [single]; exact List.prefix_append [b] rest)
      rw [none] at found
      cases found
    · exact ih b' mem

/-- A piece is an ASCII character, which is its only byte, or it has no byte of an ASCII character. -/
theorem piece_cases (wide : StraysWide (p :: ps)) :
    (∃ c, p = .inl c ∧ c.toNat < 0x80) ∨
      0x80 ≤ (pieceChar p).toNat ∧ escaped p = p ∧ ∃ b bytes, pieceBytes p = b :: bytes ∧
        ∀ b' ∈ b :: bytes, 0x80 ≤ (Char.ofUInt8 b').toNat := by
  cases p with
  | inl c =>
    rcases Nat.lt_or_ge c.toNat 0x80 with ascii | isWide
    · exact .inl ⟨c, rfl, ascii⟩
    · obtain ⟨b, bytes, shape⟩ := List.exists_cons_of_ne_nil (String.utf8EncodeChar_ne_nil (c := c))
      exact .inr ⟨isWide, congrArg Sum.inl (simpleEscape_wide isWide), b, bytes, shape,
        shape ▸ wide_bytes isWide⟩
  | inr b =>
    have single : ∀ b' ∈ [b], 0x80 ≤ (Char.ofUInt8 b').toNat :=
      List.forall_mem_singleton.2 (wide b List.mem_cons_self)
    have mark : 0x80 ≤ replacement.toNat := by decide
    exact .inr ⟨mark, rfl, b, [], rfl, single⟩

theorem StraysWide.tail (wide : StraysWide (p :: ps)) : StraysWide ps :=
  fun b mem => wide b (List.mem_cons_of_mem p mem)

theorem StraysWide.suffix {rest : List (Char ⊕ UInt8)} (wide : StraysWide ps) (isEnd : rest <:+ ps) :
    StraysWide rest :=
  fun b mem => wide b (isEnd.subset mem)

theorem length_le_bytes (ps : List (Char ⊕ UInt8)) : ps.length ≤ (ps.flatMap pieceBytes).length := by
  induction ps with
  | nil => exact Nat.le_refl _
  | cons p ps ih =>
    have positive : 0 < (pieceBytes p).length := by
      cases p with
      | inl c => exact List.length_pos_iff.2 String.utf8EncodeChar_ne_nil
      | inr b => exact Nat.one_pos
    rw [List.flatMap_cons, List.length_append, List.length_cons]
    omega

theorem length_bytes_digits (wide : StraysWide ps)
    (digits : ∀ p ∈ ps, (hexValue? (pieceChar p)).isSome = true) :
    (ps.flatMap pieceBytes).length = ps.length := by
  induction ps with
  | nil => rfl
  | cons p ps ih =>
    rw [List.forall_mem_cons] at digits
    rw [List.flatMap_cons, List.length_append, ih wide.tail digits.2, List.length_cons, Nat.add_comm]
    rcases piece_cases wide with ⟨c, rfl, ascii⟩ | ⟨isWide, -⟩
    · rw [pieceBytes, (ascii_bytes ascii).1]
      rfl
    · rw [hexValue?_wide isWide] at digits
      cases digits.1

/-- Digits in bytes are digits of the text. -/
theorem codeFrom_pieces (wide : StraysWide ps) (introducer : Char) (before : List UInt8)
    {width n : Nat} (enough : width ≤ (ps.flatMap pieceBytes).length) :
    codeFrom introducer (before ++ ps.flatMap pieceBytes) width before.length n =
      (spell? width n (ps.map pieceChar)).elim (.error (.unread (.badCode introducer))) fun found =>
        .ok found.1 := by
  induction width generalizing before n ps with
  | zero => rfl
  | succ width ih =>
    cases ps with
    | nil => cases enough
    | cons p ps =>
      rw [List.flatMap_cons] at enough ⊢
      rw [List.map_cons]
      rcases piece_cases wide with ⟨c, rfl, ascii⟩ | ⟨isWide, -, b, bytes, shape, wides⟩
      · obtain ⟨single, same⟩ := ascii_bytes ascii
        rw [pieceBytes, single, List.singleton_append] at enough ⊢
        rw [codeFrom, byteAt_length, pieceChar, spell?, ok_bind, same]
        cases hexValue? c with
        | none => rfl
        | some v =>
          have next := ih wide.tail (before ++ [c.toUInt8]) (n := 16 * n + v)
            (Nat.le_of_succ_le_succ enough)
          rw [List.append_assoc, List.length_append] at next
          exact next
      · rw [shape, List.cons_append, codeFrom, byteAt_length, ok_bind, spell?, hexValue?_wide isWide,
          hexValue?_wide (wides b List.mem_cons_self)]
        rfl

theorem inBytes_map (read : Except UnquoteError (List (Char ⊕ UInt8))) (p : Char ⊕ UInt8) :
    inBytes (read.map (p :: ·)) = (inBytes read).map (pieceBytes p ++ ·) := by
  cases read with
  | error cause => rfl
  | ok ps => exact congrArg Except.ok List.flatMap_cons

/-- An escape without digits. After it the other bytes of a longer character are copied. -/
theorem readFrom_simple (wide : StraysWide (p :: ps)) (simple : codeWidth? (pieceChar p) = none)
    (before rest : List UInt8) :
    readFrom (before ++ 0x5c :: (pieceBytes p ++ rest)) before.length =
      (readFrom (before ++ 0x5c :: pieceBytes p ++ rest)
        (before ++ 0x5c :: pieceBytes p).length).map (pieceBytes (escaped p) ++ ·) := by
  rcases piece_cases wide with ⟨c, rfl, ascii⟩ | ⟨isWide, same, b, bytes, shape, wides⟩
  · obtain ⟨single, same⟩ := ascii_bytes ascii
    rw [pieceChar] at simple
    rw [escaped, pieceBytes, pieceBytes, (ascii_bytes (simpleEscape_ascii ascii)).1, single,
      List.singleton_append, readFrom_backslash, same, simple]
    rfl
  · have plain : ∀ b ∈ bytes, Char.ofUInt8 b ≠ '\\' := fun b mem =>
      ne_of_wide (wides b (List.mem_cons_of_mem _ mem)) (by decide)
    have first := wides b List.mem_cons_self
    rw [same, shape, List.cons_append, readFrom_backslash, codeWidth?_wide first,
      simpleEscape_wide first, toUInt8_ofUInt8]
    have copied := readFrom_append plain (before ++ [0x5c, b]) rest
    simp only [Option.elim_none]
    rw [copied]
    simp only [List.append_assoc, List.cons_append, List.nil_append]
    cases readFrom (before ++ 0x5c :: b :: (bytes ++ rest)) _ <;> rfl

/-- Reading byte by byte gives the bytes of what is read character by character. -/
theorem readFrom_pieces (before : List UInt8) (wide : StraysWide ps) :
    readFrom (before ++ ps.flatMap pieceBytes) before.length = inBytes (decodePieces ps) := by
  induction ps using body_induction generalizing before with
  | nil =>
    rw [List.flatMap_nil, List.append_nil, readFrom_nil]
    rfl
  | lone => exact readFrom_lone before
  | plain p ps plain ih =>
    have bytes : ∀ b ∈ pieceBytes p, Char.ofUInt8 b ≠ '\\' := by
      rcases piece_cases wide with ⟨c, rfl, ascii⟩ | ⟨-, -, b, bytes, shape, wides⟩
      · obtain ⟨single, same⟩ := ascii_bytes ascii
        rw [pieceBytes, single, List.forall_mem_singleton, same]
        exact plain
      · rw [shape]
        exact fun b mem => ne_of_wide (wides b mem) (by decide)
    rw [List.flatMap_cons, readFrom_append bytes, ih _ wide.tail, decodePieces_plain plain, inBytes_map]
  | escape p ps ih =>
    have later := wide.tail
    have bytes : (.inl '\\' :: p :: ps : List (Char ⊕ UInt8)).flatMap pieceBytes =
        0x5c :: (pieceBytes p ++ ps.flatMap pieceBytes) := rfl
    rw [bytes]
    cases code : codeWidth? (pieceChar p) with
    | none =>
      rw [readFrom_simple later code, ih ps (List.suffix_refl _) _ later.tail,
        decodePieces_simple code, inBytes_map]
    | some width =>
      rcases piece_cases later with ⟨c, rfl, ascii⟩ | ⟨isWide, -⟩
      · obtain ⟨single, same⟩ := ascii_bytes ascii
        have width? : codeWidth? c = some width := code
        rw [pieceBytes, single, List.singleton_append, readFrom_backslash, same, width?,
          decodePieces_code code]
        simp only [Option.elim_some]
        rcases digits_cases width ps with ⟨n, ds, rest, found, rfl, length, digits⟩ | ⟨none, -⟩
        · obtain ⟨⟨n, after⟩, spelt, rfl⟩ := Option.map_eq_some_iff.1 found
          have enough : width ≤ ((ds ++ rest).flatMap pieceBytes).length := by
            have more := length_le_bytes (ds ++ rest)
            rw [List.length_append] at more
            omega
          have widths : StraysWide ds := fun b mem =>
            later.tail b (List.mem_append_left rest mem)
          rw [if_pos enough, codeFrom_pieces later.tail c _ enough, spelt]
          have isEnd : rest <:+ ds ++ rest := List.suffix_append _ _
          have others := ih rest isEnd (before ++ [0x5c, c.toUInt8] ++ ds.flatMap pieceBytes)
            (later.tail.suffix isEnd)
          rw [List.length_append, length_bytes_digits widths digits, length, List.append_assoc,
            ← List.flatMap_append] at others
          simp only [Option.elim_some, ok_bind]
          rw [others, ← length, List.drop_left, inBytes_map]
          rfl
        · rw [none]
          split
          · rename_i enough
            rw [codeFrom_pieces later.tail c _ enough, none]
            rfl
          · rfl
      · rw [codeWidth?_wide isWide] at code
        cases code

/-! ## Quotes -/

/-- The quote that closes a literal is the first that is not escaped. -/
theorem closeQuote_unescaped {q : Char} {inside rest : List Char}
    (h : Token.closeQuote q cs = some (inside, rest)) :
    ∃ body, inside = body ++ [q] ∧ Unescaped body := by
  fun_induction Token.closeQuote q cs generalizing inside rest with
  | case1 => cases h
  | case2 => cases h
  | case3 d ds ih =>
    obtain ⟨⟨inside, rest⟩, found, same⟩ := Option.map_eq_some_iff.1 h
    cases same
    obtain ⟨body, rfl, unescaped⟩ := ih found
    exact ⟨'\\' :: d :: body, rfl, unescaped_pair.2 unescaped⟩
  | case4 =>
    cases h
    exact ⟨[], rfl, unescaped_nil⟩
  | case5 c cs plain _ ih =>
    obtain ⟨⟨inside, rest⟩, found, same⟩ := Option.map_eq_some_iff.1 h
    cases same
    obtain ⟨body, rfl, unescaped⟩ := ih found
    exact ⟨c :: body, rfl, (unescaped_plain plain).2 unescaped⟩

theorem lexeme_string {l : Token.Lexeme} (h : Token.lexeme c cs = .ok l)
    (isString : l.kind = .string) :
    Token.isQuote c = true ∧ ∃ inside, Token.closeQuote c cs = some (inside, l.rest) ∧
      l.text = c :: inside := by
  have noString {kind : Token.Kind} (found : Token.punctuation? c = some kind) :
      kind ≠ .string := by
    unfold Token.punctuation? at found
    split at found <;> cases found <;> decide
  unfold Token.lexeme at h
  grind [Token.number_kind, Token.identifier_kind, Token.operator_kind]

/-- The bytes of a literal in quotes. -/
structure Enclosed (q : Char) (body : List (Char ⊕ UInt8)) (bytes : List UInt8) : Prop where
  isQuote : Token.isQuote q = true
  shape : pieces bytes = .inl q :: (body ++ [.inl q])

section
variable {q : Char} {body : List (Char ⊕ UInt8)}

theorem Enclosed.ascii {bytes : List UInt8} (h : Enclosed q body bytes) : q.toNat < 0x80 := by
  have isQuote := h.isQuote
  simp only [Token.isQuote, Bool.or_eq_true, beq_iff_eq] at isQuote
  rcases isQuote with (rfl | rfl) | rfl <;> decide

theorem Enclosed.unquoteBytes {bytes : List UInt8} (h : Enclosed q body bytes) :
    unquoteBytes bytes = inBytes (decodePieces body) := by
  have parts : bytes = q.toUInt8 :: (body.flatMap pieceBytes ++ [q.toUInt8]) := by
    rw [← flatMap_pieces bytes, h.shape, List.flatMap_cons, List.flatMap_append, List.flatMap_singleton,
      pieceBytes, (ascii_bytes h.ascii).1]
    rfl
  have wide : StraysWide body := by
    intro b mem
    refine straysWide_pieces bytes b ?_
    rw [h.shape]
    exact List.mem_cons_of_mem _ (List.mem_append_left _ mem)
  have enough : ¬ (q.toUInt8 :: (body.flatMap pieceBytes ++ [q.toUInt8])).length < 2 := by simp
  rw [parts, Literal.unquoteBytes, if_neg enough, List.tail_cons, List.dropLast_concat]
  exact readFrom_pieces [] wide

theorem Enclosed.unquoteRaw {raw : RawText} (h : Enclosed q body raw.toBytes) :
    unquoteRaw raw = (decodePieces body).map fun ps => .ofBytes (ps.flatMap pieceBytes) := by
  have shape := h.shape
  cases raw with
  | chars s =>
    rw [RawText.toBytes, pieces_toBytes] at shape
    obtain ⟨q', cs, text, same, rest⟩ := List.map_eq_cons_iff.1 shape
    cases same
    obtain ⟨cs, last, rfl, rfl, ends⟩ := List.map_eq_append_iff.1 rest
    obtain ⟨q', rfl, same⟩ := List.map_eq_singleton_iff.1 ends
    cases same
    rw [decodePieces_chars, Literal.unquoteRaw, unquote, text, unquoteChars_enclosed]
    cases decode cs with
    | error cause => rfl
    | ok ds =>
      have bytes : (ds.map Sum.inl).flatMap pieceBytes = toBytes (String.ofList ds) := by
        rw [List.flatMap_map, toBytes, String.toList_ofList]
        rfl
      show Except.ok (RawText.chars (String.ofList ds)) =
        .ok (.ofBytes ((ds.map Sum.inl).flatMap pieceBytes))
      rw [bytes, RawText.ofBytes_of_chars]
  | bytes bs stray =>
    rw [RawText.toBytes] at shape
    obtain ⟨p, ps, cut⟩ := List.exists_cons_of_ne_nil (l := body ++ [.inl q]) (by simp)
    rw [Literal.unquoteRaw, shape, cut, unquotePieces, ← cut, List.dropLast_concat]

end

/-! ## Literals in a binding text -/

theorem rawOffset_append (before after : List (Char ⊕ UInt8)) :
    Token.rawOffset (before ++ after) (byteLength (before.map pieceChar)) =
      (before.flatMap pieceBytes).length := by
  induction before with
  | nil => cases after <;> rfl
  | cons p before ih =>
    have size : byteLength ((p :: before).map pieceChar) =
        (pieceChar p).utf8Size + byteLength (before.map pieceChar) := by
      simp [byteLength]
    have positive := (pieceChar p).utf8Size_pos
    rw [List.cons_append, Token.rawOffset, size, if_neg (by omega), Nat.add_sub_cancel_left, ih,
      List.flatMap_cons, List.length_append]

/-- A token has the characters that are shown of it and the bytes that stand where it does. -/
theorem pieces_rawIn {input : RawText} {t : Token} (mem : t ∈ Token.scanRaw input)
    (proper : t.Proper) :
    ∃ q cs rest, Token.lexeme q (cs ++ rest) = .ok ⟨t.kind, q :: cs, rest⟩ ∧
      (pieces (t.rawIn input).toBytes).map pieceChar = q :: cs := by
  have cut {s : String} {t : Token} (mem : t ∈ Token.scan s) (proper : t.Proper) :
      ∃ u q cs v, s.toList = u ++ (q :: cs ++ v) ∧ t.offset = byteLength u ∧
        t.text = String.ofList (q :: cs) ∧
        Token.lexeme q (cs ++ v) = .ok ⟨t.kind, q :: cs, v⟩ := by
    obtain ⟨before, after, shape⟩ := List.append_of_mem mem
    obtain ⟨u, x, v, whole, stands, -⟩ := Token.scanFrom_at proper shape
    obtain ⟨q, cs, rfl, -, read⟩ := stands.read
    exact ⟨u, q, cs, v, whole, by rw [stands.offset, Nat.zero_add], stands.text, read⟩
  cases input with
  | chars s =>
    obtain ⟨u, q, cs, v, -, -, text, read⟩ := cut mem proper
    refine ⟨q, cs, v, read, ?_⟩
    have kept : pieceChar ∘ Sum.inl = id := rfl
    show (pieces (toBytes t.text)).map pieceChar = q :: cs
    rw [pieces_toBytes, List.map_map, kept, List.map_id, text, String.toList_ofList]
  | bytes bs stray =>
    obtain ⟨t, inside, rfl⟩ := List.mem_map.1 mem
    obtain ⟨u, q, cs, v, whole, offset, text, read⟩ := cut inside proper
    rw [toList_ofBytes] at whole
    obtain ⟨before, ps, parts, rfl, rest⟩ := List.map_eq_append_iff.1 whole
    obtain ⟨token, after, rfl, shown, rfl⟩ := List.map_eq_append_iff.1 rest
    have place : Token.rawOffset (pieces bs) t.offset = (before.flatMap pieceBytes).length := by
      rw [offset, parts, rawOffset_append]
    have length : t.text.length = token.length := by
      rw [text, String.length_ofList, ← shown, List.length_map]
    have left : bs.drop (before.flatMap pieceBytes).length = (token ++ after).flatMap pieceBytes := by
      rw [← flatMap_pieces bs, parts, List.flatMap_append, List.drop_left]
    have others : pieces ((token ++ after).flatMap pieceBytes) = token ++ after :=
      pieces_of_back ⟨before, parts.symm⟩
    have own : pieces (token.flatMap pieceBytes) = token :=
      pieces_of_part ⟨before, after, by rw [parts, List.append_assoc]⟩
    refine ⟨q, cs, _, read, ?_⟩
    show (pieces (RawText.ofBytes (((pieces (bs.drop (Token.rawOffset (pieces bs) t.offset))).take
      t.text.length).flatMap pieceBytes)).toBytes).map pieceChar = q :: cs
    rw [place, left, others, length, List.take_left, RawText.toBytes_ofBytes, own, shown]

/-- A literal of a text is in quotes, and what closes it is not escaped. -/
theorem enclosed_of_scanRaw {input : RawText} {t : Token} (mem : t ∈ Token.scanRaw input)
    (isString : t.kind = .string) :
    ∃ q body, Enclosed q body (t.rawIn input).toBytes ∧ Unescaped (body.map pieceChar) := by
  have proper : t.Proper := by simp [Token.Proper, isString]
  obtain ⟨q, cs, rest, read, shown⟩ := pieces_rawIn mem proper
  obtain ⟨isQuote, inside, closes, text⟩ := lexeme_string read isString
  obtain ⟨body, rfl, unescaped⟩ := closeQuote_unescaped closes
  have isPiece {p : Char ⊕ UInt8} (same : pieceChar p = q) : p = .inl q := by
    cases p with
    | inl c => exact congrArg Sum.inl same
    | inr b =>
      rw [← same] at isQuote
      cases isQuote
  cases text
  obtain ⟨first, ps, shape, same, others⟩ := List.map_eq_cons_iff.1 shown
  obtain ⟨body, last, rfl, rfl, ends⟩ := List.map_eq_append_iff.1 others
  obtain ⟨last, rfl, same'⟩ := List.map_eq_singleton_iff.1 ends
  rw [isPiece same, isPiece same'] at shape
  exact ⟨q, body, ⟨isQuote, shape⟩, unescaped⟩

/-- Every literal of a binding text is read, character by character and byte by byte, unless one of
its codes lacks its digits; then it is a code that cannot be read. What a literal of characters stands
for are characters again; bytes that belong to none are kept. -/
theorem unquote_token {input : RawText} {t : Token} (mem : t ∈ Token.scanRaw input)
    (isString : t.kind = .string) :
    let raw := t.rawIn input
    ∃ q body, Token.isQuote q = true ∧ pieces raw.toBytes = .inl q :: (body ++ [.inl q]) ∧
      Unescaped (body.map pieceChar) ∧
      (¬ LacksCode (body.map pieceChar) → ∃ read, unquoteRaw raw = .ok read ∧
        unquoteBytes raw.toBytes = .ok read.toBytes ∧
        ∀ s, raw = .chars s → ∃ s', read = .chars s') ∧
      (LacksCode (body.map pieceChar) → ∃ c, (c = 'x' ∨ c = 'u') ∧
        unquoteRaw raw = .error (.badCode c) ∧
        unquoteBytes raw.toBytes = .error (.unread (.badCode c))) := by
  intro raw
  obtain ⟨q, body, enclosed, unescaped⟩ := enclosed_of_scanRaw mem isString
  refine ⟨q, body, enclosed.isQuote, enclosed.shape, unescaped, ?_⟩
  rw [enclosed.unquoteBytes]
  rcases decodePieces_agrees unescaped with ⟨complete, ps, found⟩ | ⟨lacks, c, code, found⟩
  · have result : unquoteRaw raw = .ok (.ofBytes (ps.flatMap pieceBytes)) := by
      rw [enclosed.unquoteRaw, found]
      rfl
    refine ⟨fun _ => ⟨_, result, ?_, fun s isText => ?_⟩, fun lacks => absurd lacks complete⟩
    · rw [found, RawText.toBytes_ofBytes]
      rfl
    · rw [isText, unquoteRaw] at result
      cases inner : unquote s with
      | error cause => rw [inner] at result; cases result
      | ok s' =>
        rw [inner] at result
        exact ⟨s', (Except.ok.inj result).symm⟩
  · refine ⟨fun complete => absurd lacks complete, fun _ => ⟨c, ?_, ?_, ?_⟩⟩
    · unfold codeWidth? at code
      grind
    · rw [enclosed.unquoteRaw, found]
      rfl
    · rw [found]
      rfl

/-- A code in which two bytes follow, but those of a single character. -/
theorem unquote_token_cut :
    let t : Token := ⟨.string, 0, "'\\xé'"⟩
    t ∈ Token.scanRaw "'\\xé'" ∧
      ∃ c, (c = 'x' ∨ c = 'u') ∧ unquoteRaw (t.rawIn "'\\xé'") = .error (.badCode c) := by
  intro t
  have mem : t ∈ Token.scanRaw "'\\xé'" := by decide +kernel
  obtain ⟨q, body, -, shape, -, -, fails⟩ := unquote_token mem rfl
  have inside : body.map pieceChar = ['\\', 'x', 'é'] := by
    have text : pieces (t.rawIn "'\\xé'").toBytes =
        .inl '\'' :: ([.inl '\\', .inl 'x', .inl 'é'] ++ [.inl '\'']) := by
      decide +kernel
    rw [text, List.cons.injEq] at shape
    obtain ⟨same, same'⟩ := shape
    cases same
    rw [← List.append_cancel_right same']
    rfl
  have lacks : LacksCode (body.map pieceChar) := by
    refine ⟨[], 'x', ['é'], 2, inside, unescaped_nil, rfl, fun spelled => ?_⟩
    have enough : 2 ≤ 1 := spelled.1
    omega
  obtain ⟨c, code, read, -⟩ := fails lacks
  exact ⟨mem, c, code, read⟩

/-- A literal with one byte that belongs to no character stands for that byte, which is no text of
characters. -/
theorem unquote_stray_byte :
    let input := RawText.ofBytes [0x27, 0xff, 0x27]
    let t : Token := ⟨.string, 0, "'\ufffd'"⟩
    t ∈ Token.scanRaw input ∧ unquoteRaw (t.rawIn input) = .ok (.ofBytes [0xff]) ∧
      ∀ s, RawText.ofBytes [0xff] ≠ .chars s := by
  intro input t
  have mem : t ∈ Token.scanRaw input := by decide +kernel
  have read : (unquoteRaw (t.rawIn input)).toOption = some (.ofBytes [0xff]) := by decide +kernel
  refine ⟨mem, ?_, fun s isText => ?_⟩
  · cases result : unquoteRaw (t.rawIn input) with
    | error cause => rw [result] at read; cases read
    | ok found => rw [result] at read; exact congrArg Except.ok (Option.some.inj read)
  · have marked : RawText.ofBytes [0xff] ≠ .chars (RawText.ofBytes [0xff]).toText := by
      decide +kernel
    rw [isText] at marked
    exact marked rfl

end PageBinding.Literal
