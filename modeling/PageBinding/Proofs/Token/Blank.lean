import PageBinding.Proofs.Source.Compiled
import PageBinding.Proofs.Token.Composition

/-!
Trimming and scanning agree on white space. Unicode has more white space than the scanner skips, but
outside of strings the scanner takes none of it, and a string has a quote at both ends. So trimming a
text that can be scanned takes away no more than the scanner would skip.
-/
namespace PageBinding

open Text

/-! ## White space is in no token -/

/-- The codes of the characters that are white space. -/
def blankCodes : List Nat :=
  [0x20, 0x09, 0x0a, 0x0b, 0x0c, 0x0d, 0x85, 0xa0, 0x1680, 0x2000, 0x2001, 0x2002, 0x2003, 0x2004,
    0x2005, 0x2006, 0x2007, 0x2008, 0x2009, 0x200a, 0x2028, 0x2029, 0x202f, 0x205f, 0x3000]

theorem blankCodes_of_isBlank {c : Char} (blank : isBlank c = true) : c.toNat ∈ blankCodes := by
  simp only [isBlank, Bool.or_eq_true, Bool.and_eq_true, beq_iff_eq, decide_eq_true_eq, Char.le_def,
    UInt32.le_iff_toNat_le] at blank
  have low (least : '\t'.val.toNat ≤ c.toNat) (most : c.toNat ≤ '\r'.val.toNat) :
      c.toNat ∈ blankCodes := by
    have least : 9 ≤ c.toNat := least
    have most : c.toNat ≤ 13 := most
    simp only [blankCodes, List.mem_cons, List.not_mem_nil, or_false]
    omega
  have high (least : '\u2000'.val.toNat ≤ c.toNat) (most : c.toNat ≤ '\u200a'.val.toNat) :
      c.toNat ∈ blankCodes := by
    have least : 0x2000 ≤ c.toNat := least
    have most : c.toNat ≤ 0x200a := most
    simp only [blankCodes, List.mem_cons, List.not_mem_nil, or_false]
    omega
  rcases blank with (((((((((rfl | range) | rfl) | rfl) | rfl) | range) | rfl) | rfl) | rfl) | rfl) | rfl
  case inl.inl.inl.inl.inl.inl.inl.inl.inl.inr => exact low range.1 range.2
  case inl.inl.inl.inl.inl.inr => exact high range.1 range.2
  all_goals decide

/-- No number from one to another is in a table. -/
def Text.Table.avoids (t : Table) (low high : Nat) : Bool :=
  t.single.all (fun n => n < low || high < n) &&
    t.rows.all (fun row => row.1 + row.2 ≤ low || high < row.1) &&
    t.alternate.all fun row => row.1 + 2 * row.2 ≤ low || high < row.1

theorem Text.Table.not_has {t : Table} {low high n : Nat} (avoids : t.avoids low high = true)
    (least : low ≤ n) (most : n ≤ high) : t.has n = false := by
  simp only [Table.avoids, Bool.and_eq_true, List.all_eq_true, Bool.or_eq_true,
    decide_eq_true_eq] at avoids
  obtain ⟨⟨single, rows⟩, alternate⟩ := avoids
  simp only [Table.has, Bool.or_eq_false_iff, List.any_eq_false, Bool.and_eq_true, decide_eq_true_eq,
    beq_iff_eq]
  refine ⟨⟨?_, fun row mem inside => ?_⟩, fun row mem inside => ?_⟩
  · rw [List.contains_eq_mem, decide_eq_false_iff_not]
    intro mem
    have := single n mem
    omega
  · have := rows row mem
    omega
  · have := alternate row mem
    omega

/-- Where the white space is that is not ASCII. -/
def wideBlanks : List (Nat × Nat) :=
  [(0x85, 0xa0), (0x1680, 0x1680), (0x2000, 0x205f), (0x3000, 0x3000)]

theorem isBlank_cases {c : Char} (blank : isBlank c = true) :
    c.toNat ≤ 0x20 ∨ ∃ range ∈ wideBlanks, range.1 ≤ c.toNat ∧ c.toNat ≤ range.2 := by
  have all : blankCodes.all (fun n => n ≤ 0x20 ||
      wideBlanks.any fun range => range.1 ≤ n && n ≤ range.2) = true := by decide
  simpa using List.all_eq_true.1 all _ (blankCodes_of_isBlank blank)

/-- A property that no white space has. -/
theorem not_isBlank_of {p : Char → Bool} {c : Char}
    (none : ∀ n ∈ blankCodes, p (Char.ofNat n) = false) (h : p c = true) : isBlank c = false := by
  cases blank : isBlank c with
  | false => rfl
  | true =>
    have not := none _ (blankCodes_of_isBlank blank)
    rw [Char.ofNat_toNat, h] at not
    cases not

namespace Token

variable {o n : Nat} {c : Char} {cs : List Char}

theorem isBlank_of_isSpace {c : Char} (space : isSpace c = true) : isBlank c = true := by
  rcases space_cases space with rfl | rfl | rfl | rfl <;> decide

theorem all_isBlank (spaces : cs.all isSpace = true) : cs.all isBlank = true :=
  List.all_eq_true.2 fun d mem => isBlank_of_isSpace (List.all_eq_true.1 spaces d mem)

theorem not_isBlank_nameChar (isName : Piece.isNameChar c = true) : isBlank c = false := by
  cases blank : isBlank c with
  | false => rfl
  | true =>
    rcases isBlank_cases blank with ascii | ⟨range, mem, least, most⟩
    · have none : (List.range 0x21).all (fun n => !Piece.isNameChar (Char.ofNat n)) = true := by
        decide +kernel
      have not := List.all_eq_true.1 none c.toNat (List.mem_range.2 (Nat.lt_succ_of_le ascii))
      rw [Char.ofNat_toNat, isName] at not
      cases not
    · -- the tables of letters and digits have nothing in these ranges
      have apart : wideBlanks.all (fun range => 0x80 ≤ range.1 &&
          (Category.decimalDigits :: Category.letters).all (·.avoids range.1 range.2)) = true := by
        decide +kernel
      have here := List.all_eq_true.1 apart range mem
      rw [Bool.and_eq_true, decide_eq_true_eq, List.all_eq_true] at here
      have outside (t : Table) (mem : t ∈ Category.decimalDigits :: Category.letters) :
          t.has c.toNat = false :=
        Table.not_has (here.2 t mem) least most
      have wide : ¬ c.toNat < 0x80 := by omega
      have letter : isLetter c = false := by
        rw [isLetter, if_neg wide]
        exact List.any_eq_false.2 fun t mem => by simp [outside t (List.mem_cons_of_mem _ mem)]
      have digit : isDigit c = false := by
        rw [isDigit, if_neg wide]
        exact outside _ List.mem_cons_self
      have mark (d : Char) (ascii : d.toNat < 0x80) : c ≠ d := by
        rintro rfl
        exact wide ascii
      simp [Piece.isNameChar, isWordChar, letter, digit, mark '$' (by decide),
        mark '_' (by decide)] at isName

theorem not_isBlank_numeral (isNumeral : Piece.isNumeral c = true) : isBlank c = false :=
  not_isBlank_of (by decide) isNumeral

theorem not_isBlank_quote (quote : isQuote c = true) : isBlank c = false :=
  not_isBlank_of (by decide) quote

theorem not_isBlank_punctuation {kind : Kind} (found : punctuation? c = some kind) :
    isBlank c = false := by
  have isSome : (punctuation? c).isSome = true := by rw [found]; rfl
  exact not_isBlank_of (p := fun c => (punctuation? c).isSome) (by decide) isSome

theorem not_isBlank_operator : ∀ op ∈ operatorTexts, ∀ c ∈ op, isBlank c = false :=
  forall_mem_operator (by decide)

/-- A printable ASCII character that the scanner does not skip. -/
theorem not_isBlank_printable (printable : (decide (c.toNat < 0x80) && isGraphic c) = true)
    (solid : isSpace c = false) : isBlank c = false := by
  have both : (!isSpace c && (decide (c.toNat < 0x80) && isGraphic c)) = true := by
    rw [solid, printable]
    rfl
  exact not_isBlank_of (p := fun c => !isSpace c && (decide (c.toNat < 0x80) && isGraphic c))
    (by decide +kernel) both

theorem closeQuote_getLast {quote : Char} {body rest : List Char}
    (h : closeQuote quote cs = some (body, rest)) : body.getLast? = some quote := by
  fun_induction closeQuote quote cs generalizing body rest with
  | case1 => cases h
  | case2 => cases h
  | case3 d ds ih =>
    obtain ⟨⟨b, r⟩, found, same⟩ := Option.map_eq_some_iff.1 h
    cases same
    have last := ih found
    simp [List.getLast?_cons, last]
  | case4 => cases h; rfl
  | case5 c cs _ _ ih =>
    obtain ⟨⟨b, r⟩, found, same⟩ := Option.map_eq_some_iff.1 h
    cases same
    have last := ih found
    simp [List.getLast?_cons, last]

/-- A text that neither begins nor ends with white space. -/
def Solid (cs : List Char) : Prop :=
  (∀ d ∈ cs.head?, isBlank d = false) ∧ ∀ d ∈ cs.getLast?, isBlank d = false

theorem solid_of_all (all : ∀ d ∈ cs, isBlank d = false) : Solid cs :=
  ⟨fun d begins => all d (List.mem_of_mem_head? begins),
    fun d ends => all d (List.mem_of_getLast? ends)⟩

theorem solid_singleton (solid : isBlank c = false) : Solid [c] :=
  solid_of_all (by simpa using solid)

theorem number_solid {l : Lexeme} (plain : l.Plain) (h : number cs = .ok l) : Solid l.text := by
  have chars := (plain.2 (number_kind h)).1
  exact solid_of_all fun d mem => not_isBlank_numeral (List.all_eq_true.1 chars d mem)

theorem identifier_solid {l : Lexeme} (plain : l.Plain) (h : identifier cs = .ok l) :
    Solid l.text := by
  have chars := (plain.1 (identifier_kind h)).1
  exact solid_of_all fun d mem => not_isBlank_nameChar (List.all_eq_true.1 chars d mem)

theorem operator_solid {l : Lexeme} (h : operator c cs = .ok l) : Solid l.text := by
  unfold operator at h
  split at h
  · rename_i op found
    cases h
    exact solid_of_all (not_isBlank_operator op (operatorAt?_eq_some.1 found).1)
  · cases h

/-- A token neither begins nor ends with white space. -/
theorem lexeme_solid {l : Lexeme} (h : lexeme c cs = .ok l) (solid : isSpace c = false) :
    Solid l.text := by
  have plain := lexeme_plain h
  unfold lexeme at h
  split at h
  · rename_i quoted
    split at h
    · rename_i body rest closed
      cases h
      refine ⟨fun d begins => ?_, fun d ends => ?_⟩
      · cases begins
        exact not_isBlank_quote quoted
      · simp only [List.getLast?_cons, closeQuote_getLast closed, Option.getD_some] at ends
        cases ends
        exact not_isBlank_quote quoted
    · cases h
  · split at h
    · exact number_solid plain h
    · split at h
      · rename_i point
        split at h
        · exact number_solid plain h
        · cases h
          subst point
          exact solid_singleton (by decide)
      · split at h
        · rename_i equals
          split at h
          · exact operator_solid h
          · cases h
            subst equals
            exact solid_singleton (by decide)
        · split at h
          · exact operator_solid h
          · split at h
            · exact identifier_solid plain h
            · split at h
              · rename_i found
                cases h
                exact solid_singleton (not_isBlank_punctuation found)
              · split at h
                · rename_i printable
                  cases h
                  exact solid_singleton (not_isBlank_printable printable solid)
                · cases h

/-! ## Trimming -/

theorem trimBlank_solid {sp w : List Char} (blank : sp.all isBlank = true)
    (blank' : w.all isBlank = true) (some : cs ≠ []) (solid : Solid cs) :
    trimBlank (sp ++ (cs ++ w)) = cs := by
  have first : trimStartBy isBlank (sp ++ (cs ++ w)) = cs ++ w := by
    have stops : Stops isBlank (cs ++ w) := by
      obtain ⟨c, cs, rfl⟩ := List.exists_cons_of_ne_nil some
      exact stops_cons _ (solid.1 c rfl)
    exact congrArg Prod.snd (run_of_stops blank stops)
  have last : trimEndBy isBlank (cs ++ w) = cs := by
    have stops : Stops isBlank cs.reverse := by
      intro d begins
      rw [List.head?_reverse] at begins
      exact solid.2 d begins
    have allBlank : w.reverse.all isBlank = true := by rw [List.all_reverse, blank']
    have parts := congrArg Prod.snd (run_of_stops allBlank stops)
    rw [trimEndBy, List.reverse_append]
    exact (congrArg List.reverse parts).trans (List.reverse_reverse cs)
  rw [trimBlank, first, last]

theorem trimBlank_of_solid (some : cs ≠ []) (solid : Solid cs) : trimBlank cs = cs := by
  have trimmed : trimBlank ([] ++ (cs ++ [])) = cs := trimBlank_solid rfl rfl some solid
  rwa [List.nil_append, List.append_nil] at trimmed

/-- The space before a text ends within each part of it that has more than space. -/
theorem begins_inside {sp rest part after : List Char} {d : Char} (blank : sp.all isSpace = true)
    (same : sp ++ c :: rest = part ++ after) (mem : d ∈ part) (solid : isSpace d = false) :
    ∃ core, part = sp ++ c :: core := by
  have notIn : d ∉ sp := by
    intro within
    rw [List.all_eq_true.1 blank d within] at solid
    cases solid
  rcases List.append_eq_append_iff.1 same with ⟨core, shape, left⟩ | ⟨more, shape, -⟩
  · cases core with
    | nil =>
      rw [shape, List.append_nil] at mem
      exact absurd mem notIn
    | cons c' core =>
      cases left
      exact ⟨core, shape⟩
  · exact absurd (shape ▸ List.mem_append_left more mem) notIn

/-- Trimming takes only space from a text with tokens, and only moves its tokens. -/
theorem scanFrom_trimmed {u : List Char} {before : List Token} (some : before ≠ [])
    (h : scanFrom o u = before ++ [eofAt n]) :
    ∃ sp w, u = sp ++ (trimBlank u ++ w) ∧ Solid (trimBlank u) ∧
      scanFrom (o + byteLength sp) (trimBlank u) = before ++ [eofAt n] := by
  obtain ⟨init, tok, shape⟩ := (List.eq_nil_or_concat before).resolve_left some
  rw [List.concat_eq_append] at shape
  subst shape
  rw [List.append_assoc, List.singleton_append] at h
  obtain ⟨t, x, w, shape, blank', -, ⟨-, -, d, x', rfl, solidLast, readLast⟩, replaced⟩ :=
    scanFrom_last h
  have count := congrArg List.length h
  -- the first token begins where the space before it ends
  rcases scanFrom_cases o u with
    ⟨-, scanned⟩ | ⟨sp, c, rest, shape', blank, solid, ⟨e, scanned⟩ | ⟨l, read, -⟩⟩
  · rw [scanned] at count
    simp at count
  · rw [scanned] at count
    simp at count
  have same : sp ++ c :: rest = (t ++ d :: x') ++ w := by
    rw [← shape', shape, List.append_assoc]
  obtain ⟨a, inside⟩ := begins_inside blank same (by simp) solidLast
  have core : Solid (c :: a) := by
    constructor
    · obtain ⟨t', text, -⟩ := lexeme_shape read
      have begins := (lexeme_solid read solid).1
      rw [text] at begins
      exact begins
    · intro b ends
      have last (init : List Char) (e : Char) (tail : List Char) :
          (init ++ e :: tail).getLast? = (e :: tail).getLast? := by
        simp [List.getLast?_append, List.getLast?_cons]
      rw [← last sp, ← inside, last] at ends
      exact (lexeme_solid readLast solidLast).2 b ends
  have whole : u = sp ++ (c :: a ++ w) := by
    rw [shape, ← List.append_assoc, inside, List.append_assoc]
  have trimmed : trimBlank u = c :: a := by
    rw [whole]
    exact trimBlank_solid (all_isBlank blank) (all_isBlank blank') (List.cons_ne_nil c a) core
  refine ⟨sp, w, by rw [trimmed, ← whole], trimmed ▸ core, ?_⟩
  have again := replaced [] nofun
  have ended : scanFrom n [] = [eofAt n] := scanFrom_blank rfl
  rw [List.append_nil, inside, scanFrom_skip blank solid, ended] at again
  rw [trimmed, again, List.append_assoc, List.singleton_append]

end Token

end PageBinding
