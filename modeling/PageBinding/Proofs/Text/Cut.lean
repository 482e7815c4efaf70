import PageBinding.Literal
import PageBinding.Proofs.Text.Lines
import PageBinding.Token.Scan

/-!
Where a text at the head of another one ends: a run of characters of a class, a quoted text, a whole
number. Each is found again from what it stands in, so two texts that begin with one and are equal
begin with the same one.
-/
namespace PageBinding

/-! ## Runs -/

namespace Token

/-- A text that does not go on with a character of a class. -/
def Stops (p : Char → Bool) (rest : List Char) : Prop :=
  ∀ c ∈ rest.head?, p c = false

theorem stops_cons {p : Char → Bool} {c : Char} (rest : List Char) (stop : p c = false) :
    Stops p (c :: rest) := by
  rintro d ⟨⟩
  exact stop

theorem run_of_stops {p : Char → Bool} {cs rest : List Char} (all : cs.all p = true)
    (stops : Stops p rest) : run p (cs ++ rest) = (cs, rest) := by
  have fresh : rest.takeWhile p = [] ∧ rest.dropWhile p = rest := by
    cases rest with
    | nil => exact ⟨rfl, rfl⟩
    | cons c rest =>
      have stop : p c = false := stops c rfl
      simp [stop]
  rw [List.all_eq_true] at all
  rw [run, List.takeWhile_append_of_pos all, List.dropWhile_append_of_pos all, fresh.1, fresh.2,
    List.append_nil]

/-- Equal texts begin with the same run. -/
theorem run_cancel {p : Char → Bool} {cs ds rest rest' : List Char} (all : cs.all p = true)
    (all' : ds.all p = true) (stops : Stops p rest) (stops' : Stops p rest')
    (same : cs ++ rest = ds ++ rest') : cs = ds ∧ rest = rest' := by
  have again := run_of_stops all stops
  rw [same, run_of_stops all' stops', Prod.mk.injEq] at again
  exact ⟨again.1.symm, again.2.symm⟩

end Token

/-! ## Quoted texts -/

namespace Literal

open Text

theorem hexValue?_hexDigit {d : Nat} (digit : d < 16) : hexValue? (hexDigit d) = some d := by
  have all : ∀ d : Fin 16, hexValue? (hexDigit d) = some d.val := by decide
  exact all ⟨d, digit⟩

/-- Four hexadecimal digits give back the number that they were made from. -/
theorem code?_hex {n : Nat} (small : n < 0x10000) : code? (hex 4 n) = some n := by
  have digit (k : Nat) : hexValue? (hexDigit (k % 16)) = some (k % 16) :=
    hexValue?_hexDigit (Nat.mod_lt _ (by decide))
  simp only [hex, code?, List.nil_append, List.cons_append, List.foldl_cons, List.foldl_nil, digit,
    Option.pure_def, Option.bind_eq_bind, Option.bind_some, Option.some.injEq]
  omega

theorem charOfCode_toNat (c : Char) : charOfCode c.toNat = c := by
  have isCode : c.toNat.isValidChar := c.valid
  unfold charOfCode
  rw [if_pos isCode, Char.ofNat_toNat]

/-- The three ways to write a character in a literal: as it is, after a backslash, by number. -/
theorem escape_cases (c : Char) :
    (c ≠ '"' ∧ c ≠ '\\' ∧ escape c = [c]) ∨
      (∃ d, escape c = ['\\', d] ∧ d ≠ 'x' ∧ d ≠ 'u' ∧ simpleEscape d = c) ∨
      (escape c = '\\' :: 'u' :: hex 4 c.toNat ∧ c.toNat < 0x10000) := by
  unfold escape
  split
  · exact .inr (.inl ⟨'"', rfl, by decide, by decide, by subst c; rfl⟩)
  · rename_i notQuote
    split
    · exact .inr (.inl ⟨'\\', rfl, by decide, by decide, by subst c; rfl⟩)
    · rename_i notBackslash
      split
      · exact .inr (.inl ⟨'n', rfl, by decide, by decide, by subst c; rfl⟩)
      · split
        · exact .inr (.inl ⟨'r', rfl, by decide, by decide, by subst c; rfl⟩)
        · split
          · exact .inr (.inl ⟨'t', rfl, by decide, by decide, by subst c; rfl⟩)
          · split
            · rename_i special
              refine .inr (.inr ⟨rfl, ?_⟩)
              simp only [Bool.or_eq_true, decide_eq_true_eq] at special
              obtain ((rfl | rfl) | control) | delete := special
              · decide
              · decide
              · omega
              · omega
            · exact .inl ⟨notQuote, notBackslash, rfl⟩

theorem hexDigit_ne {d : Nat} (digit : d < 16) : hexDigit d ≠ '"' ∧ hexDigit d ≠ '\\' := by
  have all : ∀ d : Fin 16, hexDigit d ≠ '"' ∧ hexDigit d ≠ '\\' := by decide
  exact all ⟨d, digit⟩

theorem closeQuote_plain {q c : Char} (rest : List Char) (h : c ≠ q ∧ c ≠ '\\') :
    Token.closeQuote q (c :: rest) =
      (Token.closeQuote q rest).map fun found => (c :: found.1, found.2) := by
  rw [Token.closeQuote.eq_def]
  simp only [if_neg h.2, if_neg h.1]

theorem closeQuote_backslash (q d : Char) (rest : List Char) :
    Token.closeQuote q ('\\' :: d :: rest) =
      (Token.closeQuote q rest).map fun found => ('\\' :: d :: found.1, found.2) := by
  rw [Token.closeQuote.eq_def]
  simp

theorem closeQuote_escape (c : Char) (rest : List Char) :
    Token.closeQuote '"' (escape c ++ rest) =
      (Token.closeQuote '"' rest).map fun found => (escape c ++ found.1, found.2) := by
  obtain ⟨notQuote, notBackslash, shape⟩ | ⟨d, shape, -⟩ | ⟨shape, -⟩ := escape_cases c
  · rw [shape]
    exact closeQuote_plain rest ⟨notQuote, notBackslash⟩
  · rw [shape]
    exact closeQuote_backslash '"' d rest
  · have digit (k : Nat) : hexDigit (k % 16) ≠ '"' ∧ hexDigit (k % 16) ≠ '\\' :=
      hexDigit_ne (Nat.mod_lt _ (by decide))
    rw [shape]
    simp only [hex, List.nil_append, List.cons_append, closeQuote_backslash,
      closeQuote_plain _ (digit _), Option.map_map]
    rfl

/-- A quoted text ends at its closing quote, whatever stands after it. -/
theorem closeQuote_encode (cs rest : List Char) :
    Token.closeQuote '"' (encode cs ++ '"' :: rest) = some (encode cs ++ ['"'], rest) := by
  induction cs with
  | nil =>
    rw [Token.closeQuote.eq_def]
    simp [encode]
  | cons c cs ih =>
    rw [encode, List.flatMap_cons, List.append_assoc, closeQuote_escape]
    rw [encode] at ih
    rw [ih, Option.map_some, List.append_assoc]

theorem decode_escape (c : Char) (rest : List Char) :
    decode (escape c ++ rest) = (decode rest).map (c :: ·) := by
  obtain ⟨notQuote, notBackslash, shape⟩ | ⟨d, shape, notX, notU, meaning⟩ | ⟨shape, small⟩ :=
    escape_cases c
  · rw [shape]
    simp [decode, notBackslash]
    rfl
  · rw [shape, ← meaning]
    simp [decode, notX, notU]
    rfl
  · have number := code?_hex small
    rw [shape]
    simp only [hex, List.nil_append, List.cons_append] at number ⊢
    rw [decode, number]
    simp only [charOfCode_toNat]
    rfl

/-- A literal stands for the text that it was made from. -/
theorem decode_encode (cs : List Char) : decode (encode cs) = .ok cs := by
  induction cs with
  | nil => rfl
  | cons c cs ih =>
    rw [encode, List.flatMap_cons, decode_escape]
    rw [encode] at ih
    rw [ih]
    rfl

theorem unquoteChars_enclosed (q : Char) (cs : List Char) :
    unquoteChars (q :: (cs ++ [q])) = decode cs := by
  cases cs with
  | nil => rfl
  | cons c cs =>
    show decode (c :: (cs ++ [q])).dropLast = _
    rw [← List.cons_append, List.dropLast_concat]

theorem unquote_quote (s : String) : unquote (quote s) = .ok s := by
  unfold unquote quote quoteChars
  rw [String.toList_ofList, unquoteChars_enclosed, decode_encode]
  exact congrArg Except.ok String.ofList_toList

/-- Equal texts begin with the same quoted text. -/
theorem quoteChars_cancel {cs ds rest rest' : List Char}
    (same : quoteChars cs ++ rest = quoteChars ds ++ rest') : cs = ds ∧ rest = rest' := by
  simp only [quoteChars, List.cons_append, List.append_assoc, List.nil_append, List.cons.injEq,
    true_and] at same
  have closed := closeQuote_encode cs rest
  rw [same, closeQuote_encode, Option.some.injEq, Prod.mk.injEq, List.append_cancel_right_eq] at closed
  have decoded := decode_encode cs
  rw [← closed.1, decode_encode] at decoded
  cases decoded
  exact ⟨rfl, closed.2.symm⟩

theorem oneLine_escape (c : Char) : OneLine (escape c) := by
  have notEnd {d : Char} (other : ∀ e, isLineEnd e = true → d ≠ e) : isLineEnd d = false :=
    Bool.eq_false_iff.2 fun ends => other d ends rfl
  obtain ⟨-, -, shape⟩ | ⟨d, shape, -, -, meaning⟩ | ⟨shape, -⟩ := escape_cases c
  · have plain : isLineEnd c = false := by
      refine notEnd fun e ends same => ?_
      subst same
      rcases lineEnd_cases ends with rfl | rfl | rfl | rfl <;> cases shape
    rw [shape, oneLine_cons]
    exact ⟨plain, oneLine_nil⟩
  · have plain : isLineEnd d = false := by
      refine notEnd fun e ends same => ?_
      subst same meaning
      rcases lineEnd_cases ends with rfl | rfl | rfl | rfl <;> cases shape
    rw [shape, oneLine_cons, oneLine_cons]
    exact ⟨rfl, plain, oneLine_nil⟩
  · have digit (k : Nat) : isLineEnd (hexDigit (k % 16)) = false := by
      have all : ∀ d : Fin 16, isLineEnd (hexDigit d) = false := by decide
      exact all ⟨k % 16, Nat.mod_lt _ (by decide)⟩
    rw [shape, oneLine_cons, oneLine_cons]
    refine ⟨rfl, rfl, ?_⟩
    simp [hex, digit]

/-- A quoted text is on one line. -/
theorem oneLine_quoteChars (cs : List Char) : OneLine (quoteChars cs) := by
  have inside : OneLine (encode cs) := by
    intro e mem
    obtain ⟨c, -, within⟩ := List.mem_flatMap.1 mem
    exact oneLine_escape c e within
  simp [quoteChars, inside, isLineEnd]

end Literal

/-! ## Whole numbers -/

theorem toString_isDigit (n : Nat) : (toString n).toList.all Char.isDigit = true := by
  rw [Nat.toString_eq_ofList_toDigits, String.toList_ofList, List.all_eq_true]
  intro c mem
  exact Nat.isDigit_of_mem_toDigits (by decide) (by decide) mem

/-- A name without digits before a number tells the number. -/
theorem number_of_name {stem stem' : String} {i j : Nat}
    (plain : stem.toList.all (fun c => !c.isDigit) = true)
    (plain' : stem'.toList.all (fun c => !c.isDigit) = true)
    (same : stem ++ toString i = stem' ++ toString j) : i = j := by
  have digits {stem : String} (plain : stem.toList.all (fun c => !c.isDigit) = true) (n : Nat) :
      (stem ++ toString n).toList.dropWhile (fun c => !c.isDigit) = Nat.toDigits 10 n := by
    rw [String.toList_append, List.dropWhile_append_of_pos (List.all_eq_true.1 plain),
      Nat.toString_eq_ofList_toDigits, String.toList_ofList]
    cases shape : Nat.toDigits 10 n with
    | nil => rfl
    | cons c rest =>
      have isDigit : c.isDigit = true :=
        Nat.isDigit_of_mem_toDigits (by decide) (by decide) (shape ▸ List.mem_cons_self)
      rw [List.dropWhile_cons_of_neg (by simp [isDigit])]
  have tails : Nat.toDigits 10 i = Nat.toDigits 10 j := by
    rw [← digits plain i, ← digits plain' j, same]
  calc i = Nat.ofDigitChars 10 (Nat.toDigits 10 i) 0 := Nat.ofDigitChars_ten_toDigits.symm
    _ = Nat.ofDigitChars 10 (Nat.toDigits 10 j) 0 := by rw [tails]
    _ = j := Nat.ofDigitChars_ten_toDigits

/-- The text of a whole number: a minus sign before the text of its size, if it is negative. -/
theorem int_toString (n : Int) : toString n = (if n < 0 then "-" else "") ++ toString n.natAbs := by
  cases n with
  | ofNat m =>
    have notNegative : ¬ Int.ofNat m < 0 := Int.not_lt.2 (Int.natCast_nonneg m)
    rw [if_neg notNegative, String.empty_append]
    rfl
  | negSucc m =>
    rw [if_pos (Int.negSucc_lt_zero m)]
    rfl

theorem toString_int_injective {m n : Int} (same : toString m = toString n) : m = n := by
  rw [int_toString, int_toString n] at same
  have sign (n : Int) : (if n < 0 then "-" else "").toList.all (fun c => !c.isDigit) = true := by
    split <;> decide
  have size := number_of_name (sign m) (sign n) same
  rw [size] at same
  have signs := congrArg String.length ((String.append_left_inj (toString n.natAbs)).1 same)
  split at signs <;> split at signs
  · omega
  · cases signs
  · cases signs
  · omega

/-- A whole number is written with digits, and perhaps a minus sign. -/
theorem int_all (n : Int) : (toString n).toList.all (fun c => c = '-' || c.isDigit) = true := by
  rw [int_toString, String.toList_append, List.all_append, Bool.and_eq_true]
  refine ⟨by split <;> decide, List.all_eq_true.2 fun c mem => ?_⟩
  rw [List.all_eq_true.1 (toString_isDigit n.natAbs) c mem, Bool.or_true]

/-- Equal texts that begin with a whole number and a comma begin with the same one. -/
theorem int_cancel {m n : Int} {rest rest' : List Char}
    (same : (toString m).toList ++ ',' :: rest = (toString n).toList ++ ',' :: rest') :
    m = n ∧ rest = rest' := by
  have stops (rest : List Char) : Token.Stops (fun c => c = '-' || c.isDigit) (',' :: rest) :=
    Token.stops_cons rest rfl
  obtain ⟨number, after⟩ := Token.run_cancel (int_all m) (int_all n) (stops rest) (stops rest') same
  exact ⟨toString_int_injective (String.toList_injective number), (List.cons.inj after).2⟩

end PageBinding
