import PageBinding.Proofs.Reading.Quoted

/-!
Literals in which every character is escaped by number, one escape for each of its UTF-16 code
units. The escapes of a literal are read one at a time, and half of a surrogate pair is no character:
what comes back is the text if all its characters fit in one unit, and otherwise it has two
replacement characters for each one that does not.
-/
namespace PageBinding.Literal

open Text

/-- The UTF-16 code units of a character. -/
def utf16 (c : Char) : List Nat :=
  if c.toNat < 0x10000 then [c.toNat]
  else [0xd800 + (c.toNat - 0x10000) / 0x400, 0xdc00 + (c.toNat - 0x10000) % 0x400]

/-- Code units as escapes of four hexadecimal digits, each in lower or upper case. -/
inductive Escapes : List Nat → List Char → Prop
  | nil : Escapes [] []
  | cons {unit : Nat} {units : List Nat} {rest : List Char} (digits : List Char) :
      digits.map Char.toLower = hex 4 unit → Escapes units rest →
        Escapes (unit :: units) ('\\' :: 'u' :: (digits ++ rest))

/-- What comes back of a character that is written by its code units. -/
def received (c : Char) : List Char :=
  if c.toNat < 0x10000 then [c] else ['\ufffd', '\ufffd']

/-! ## Hexadecimal digits -/

theorem hexValue?_toLower (c : Char) : hexValue? c.toLower = hexValue? c := by
  by_cases ascii : c.toNat < 128
  · have all : ∀ n : Fin 128, hexValue? (Char.ofNat n).toLower = hexValue? (Char.ofNat n) := by
      decide
    have this := all ⟨c.toNat, ascii⟩
    rwa [Char.ofNat_toNat] at this
  · rw [toLower_wide (Nat.le_of_not_lt ascii)]

theorem code?_toLower (digits : List Char) : code? (digits.map Char.toLower) = code? digits := by
  unfold code?
  rw [List.foldl_map]
  simp only [hexValue?_toLower]

theorem hexValue?_of_mem_hex {width n : Nat} {c : Char} (mem : c ∈ hex width n) :
    (hexValue? c).isSome = true := by
  induction width generalizing n with
  | zero => cases mem
  | succ width ih =>
      rcases List.mem_append.1 mem with before | last
      · exact ih before
      · rw [List.mem_singleton.1 last, hexValue?_hexDigit (Nat.mod_lt _ (by decide))]
        rfl

variable {unit : Nat} {units : List Nat} {digits body : List Char} {q : Char}

theorem digit_ne (same : digits.map Char.toLower = hex 4 unit) (isQuote : Token.isQuote q = true)
    {d : Char} (mem : d ∈ digits) : d ≠ q ∧ d ≠ '\\' := by
  have value : (hexValue? d).isSome = true := by
    rw [← hexValue?_toLower]
    exact hexValue?_of_mem_hex (same ▸ List.mem_map_of_mem mem)
  simp only [Token.isQuote, Bool.or_eq_true, beq_iff_eq] at isQuote
  constructor
  · rintro rfl
    obtain (rfl | rfl) | rfl := isQuote <;> cases value
  · rintro rfl
    cases value

/-! ## Reading -/

theorem closeQuote_all {cs : List Char} (plain : ∀ c ∈ cs, c ≠ q ∧ c ≠ '\\') (rest : List Char) :
    Token.closeQuote q (cs ++ rest) =
      (Token.closeQuote q rest).map fun found => (cs ++ found.1, found.2) := by
  induction cs with
  | nil => simp
  | cons c cs ih =>
      rw [List.forall_mem_cons] at plain
      rw [List.cons_append, closeQuote_plain _ plain.1, ih plain.2, Option.map_map]
      rfl

/-- A literal of escapes ends at its closing quote. -/
theorem closeQuote_escapes (escapes : Escapes units body) (isQuote : Token.isQuote q = true) :
    Token.closeQuote q (body ++ [q]) = some (body ++ [q], []) := by
  induction escapes with
  | nil =>
      simp only [Token.isQuote, Bool.or_eq_true, beq_iff_eq] at isQuote
      obtain (rfl | rfl) | rfl := isQuote <;> rfl
  | cons digits same _ ih =>
      rw [List.cons_append, List.cons_append, closeQuote_backslash, List.append_assoc,
        closeQuote_all (fun _ => digit_ne same isQuote), ih]
      simp

theorem decode_unit (same : digits.map Char.toLower = hex 4 unit) (small : unit < 0x10000)
    (rest : List Char) :
    decode ('\\' :: 'u' :: (digits ++ rest)) = (decode rest).map (charOfCode unit :: ·) := by
  have number : code? digits = some unit := by
    rw [← code?_toLower, same, code?_hex small]
  have four : digits.length = 4 := by
    rw [← List.length_map Char.toLower, same]
    rfl
  obtain ⟨a, b, c, d, rfl⟩ : ∃ a b c d, digits = [a, b, c, d] := by
    rcases digits with _ | ⟨a, _ | ⟨b, _ | ⟨c, _ | ⟨d, _ | ⟨e, more⟩⟩⟩⟩⟩ <;> simp at four
    exact ⟨a, b, c, d, rfl⟩
  show decode ('\\' :: 'u' :: a :: b :: c :: d :: rest) = _
  rw [decode, number]
  rfl

/-- Every escape is read on its own. -/
theorem decode_escapes (escapes : Escapes units body) (small : ∀ u ∈ units, u < 0x10000) :
    decode body = .ok (units.map charOfCode) := by
  induction escapes with
  | nil => rfl
  | cons digits same _ ih =>
      rw [List.forall_mem_cons] at small
      rw [decode_unit same small.1, ih small.2]
      rfl

/-! ## Characters -/

theorem toNat_lt (c : Char) : c.toNat < 0x110000 := by
  have valid : c.toNat < 0xd800 ∨ 0xdfff < c.toNat ∧ c.toNat < 0x110000 := c.valid
  omega

theorem utf16_small {c : Char} {u : Nat} (mem : u ∈ utf16 c) : u < 0x10000 := by
  have bound := toNat_lt c
  unfold utf16 at mem
  split at mem
  · rw [List.mem_singleton.1 mem]
    assumption
  · simp only [List.mem_cons, List.not_mem_nil, or_false] at mem
    omega

/-- Half of a pair is no character. -/
theorem charOfCode_surrogate {n : Nat} (low : 0xd800 ≤ n) (high : n < 0xe000) :
    charOfCode n = '\ufffd' := by
  unfold charOfCode
  rw [if_neg]
  simp only [Nat.isValidChar]
  omega

theorem map_charOfCode_utf16 (c : Char) : (utf16 c).map charOfCode = received c := by
  have bound := toNat_lt c
  unfold utf16 received
  split
  · rw [List.map_singleton, charOfCode_toNat]
  · rw [List.map_cons, List.map_singleton, charOfCode_surrogate (by omega) (by omega),
      charOfCode_surrogate (by omega) (by omega)]

theorem length_le_received (cs : List Char) : cs.length ≤ (cs.flatMap received).length := by
  induction cs with
  | nil => exact Nat.le_refl _
  | cons c cs ih =>
      have one : 1 ≤ (received c).length := by
        unfold received
        split <;> simp
      rw [List.flatMap_cons, List.length_append, List.length_cons]
      omega

/-- A text comes back as it was if all its characters do. -/
theorem received_eq_iff (cs : List Char) :
    cs.flatMap received = cs ↔ ∀ c ∈ cs, c.toNat < 0x10000 := by
  induction cs with
  | nil => simp
  | cons c cs ih =>
      rw [List.flatMap_cons, List.forall_mem_cons]
      by_cases small : c.toNat < 0x10000
      · rw [received, if_pos small, List.singleton_append, List.cons.injEq, ih]
        simp [small]
      · refine iff_of_false (fun same => ?_) fun all => small all.1
        have long := congrArg List.length same
        have least := length_le_received cs
        simp only [received, if_neg small, List.length_append, List.length_cons,
          List.length_nil] at long
        omega

/-- A text written as a literal of escapes, one for each UTF-16 code unit, is one string token. The
token stands for the text with two replacement characters for each character that takes two units,
so it stands for the text itself exactly when there is no such character. -/
theorem unquote_escaped (s : String) (isQuote : Token.isQuote q = true)
    (escapes : Escapes (s.toList.flatMap utf16) body) :
    let literal := String.ofList (q :: (body ++ [q]))
    Token.scan literal = [⟨.string, 0, literal⟩, .eofAt literal.utf8ByteSize] ∧
      unquote literal = .ok (String.ofList (s.toList.flatMap received)) ∧
      (unquote literal = .ok s ↔ ∀ c ∈ s.toList, c.toNat < 0x10000) := by
  have small : ∀ u ∈ s.toList.flatMap utf16, u < 0x10000 := by
    intro u mem
    obtain ⟨c, -, inside⟩ := List.mem_flatMap.1 mem
    exact utf16_small inside
  have meaning : unquote (String.ofList (q :: (body ++ [q]))) =
      .ok (String.ofList (s.toList.flatMap received)) := by
    rw [unquote, String.toList_ofList, unquoteChars_enclosed, decode_escapes escapes small,
      List.map_flatMap]
    simp only [map_charOfCode_utf16]
    rfl
  refine ⟨scan_enclosed isQuote (closeQuote_escapes escapes isQuote), meaning, ?_⟩
  rw [meaning, Except.ok.injEq, ← received_eq_iff, ← String.toList_inj, String.toList_ofList]

/-- Digits in both cases, between quotes of another kind. -/
theorem unquote_escaped_accented :
    Token.isQuote '\'' = true ∧
      Escapes ("Zé\u2028".toList.flatMap utf16) "\\u005A\\u00e9\\u2028".toList ∧
      unquote "'\\u005A\\u00e9\\u2028'" = .ok "Zé\u2028" := by
  have escapes : Escapes ("Zé\u2028".toList.flatMap utf16) "\\u005A\\u00e9\\u2028".toList :=
    .cons ['0', '0', '5', 'A'] (by decide)
      (.cons ['0', '0', 'e', '9'] (by decide)
        (.cons ['2', '0', '2', '8'] (by decide) .nil))
  have single : "Zé\u2028".toList.all (fun c => decide (c.toNat < 0x10000)) = true := by decide
  refine ⟨rfl, escapes, (unquote_escaped "Zé\u2028" rfl escapes).2.2.2 fun c mem => ?_⟩
  exact of_decide_eq_true (List.all_eq_true.1 single c mem)

/-- A character of two units is lost, and two replacement characters stand in its place. -/
theorem escaped_emoji_lost :
    Escapes ("😀".toList.flatMap utf16) "\\ud83d\\ude00".toList ∧
      unquote "'\\ud83d\\ude00'" = .ok "\ufffd\ufffd" ∧
      unquote "'\\ud83d\\ude00'" ≠ .ok "😀" := by
  have escapes : Escapes ("😀".toList.flatMap utf16) "\\ud83d\\ude00".toList :=
    .cons ['d', '8', '3', 'd'] (by decide)
      (.cons ['d', 'e', '0', '0'] (by decide) .nil)
  have meaning : unquote "'\\ud83d\\ude00'" = .ok "\ufffd\ufffd" := by decide
  refine ⟨escapes, meaning, ?_⟩
  rw [meaning, ne_eq, Except.ok.injEq]
  decide

end PageBinding.Literal
