import PageBinding.Proofs.Number.Numeral
import PageBinding.Proofs.Reading.Scoping
import PageBinding.Proofs.Source.Compiled

/-!
The number literals of compiled programs. Each is printed as it was written, which is a decimal
literal, and its value is the floating-point number for the fraction that the literal denotes. Zeros
before other digits are let through, so not all of them are literals of the standard.
-/
namespace PageBinding

variable {context : Int} {text : String} {v : Float}

theorem Expr.mem_partsAll {xs : List Expr} {y : Expr} (h : y ∈ Expr.partsAll xs) :
    ∃ x ∈ xs, y ∈ x.parts := by
  induction xs with
  | nil => cases h
  | cons x xs ih =>
      rw [Expr.partsAll, List.mem_append] at h
      rcases h with here | later
      · exact ⟨x, List.mem_cons_self, here⟩
      · obtain ⟨z, mem, inside⟩ := ih later
        exact ⟨z, List.mem_cons_of_mem x mem, inside⟩

theorem Expr.Printable.number_read {x : Expr} (h : Expr.Printable context x)
    (inside : Expr.lit text (.number v) ∈ x.parts) :
    (Piece.number text).Valid ∧ Number.read text.toList = .ok v := by
  induction h with
  | number valid read =>
      simp only [Expr.parts, List.mem_singleton, Expr.lit.injEq, Value.number.injEq] at inside
      rw [inside.1, inside.2]
      exact ⟨valid, read⟩
  | string s => simp [Expr.parts] at inside
  | @word word valid =>
      exfalso
      revert inside
      unfold Expr.ofWord
      repeat' split
      all_goals simp [Expr.parts]
  | target => simp [Expr.parts] at inside
  | get => simp [Expr.parts] at inside
  | member _ _ ih => exact ih (by simpa [Expr.parts] using inside)
  | index _ _ ihx ihi =>
      simp only [Expr.parts, List.mem_cons, reduceCtorEq, List.mem_append, false_or] at inside
      exact inside.elim ihx ihi
  | @call x method args _ _ _ ihx ihArgs =>
      simp only [Expr.parts, List.mem_cons, reduceCtorEq, List.mem_append, false_or] at inside
      rcases inside with here | inArgs
      · exact ihx here
      · obtain ⟨a, mem, inside⟩ := Expr.mem_partsAll inArgs
        exact ihArgs a mem inside
  | unary _ _ ih => exact ih (by simpa [Expr.parts] using inside)
  | binary _ _ _ ihl ihr =>
      simp only [Expr.parts, List.mem_cons, reduceCtorEq, List.mem_append, false_or] at inside
      exact inside.elim ihl ihr
  | cond _ _ _ ihc iht ihe =>
      simp only [Expr.parts, List.mem_cons, reduceCtorEq, List.mem_append, false_or] at inside
      exact inside.elim ihc fun rest => rest.elim iht ihe
  | paren _ ih => exact ih (by simpa [Expr.parts] using inside)

theorem Stmt.IsSetup.number_read {st : Stmt} (h : st.IsSetup)
    (inside : Expr.lit text (.number v) ∈ st.parts) :
    (Piece.number text).Valid ∧ Number.read text.toList = .ok v := by
  cases h with
  | lookup => simp [Stmt.parts] at inside
  | @attr owner n name valid =>
      have owned : Expr.Printable 0 (Expr.ofWord owner) := .word valid
      exact owned.number_read (by simpa [Stmt.parts, Expr.parts] using inside)
  | @prop owner keys n valid names =>
      have chain : Expr.Printable 0 (Expr.chain owner keys) := Expr.printable_chain valid names
      exact chain.number_read inside

theorem Stmt.IsAssignment.number_read {st : Stmt} (h : st.IsAssignment context)
    (inside : Expr.lit text (.number v) ∈ st.parts) :
    (Piece.number text).Valid ∧ Number.read text.toList = .ok v := by
  cases h with
  | property path known readable => exact readable.printable.number_read inside
  | @attr owner value name valid readable =>
      have owned : Expr.Printable context (Expr.ofWord owner) := .word valid
      exact (List.mem_append.1 inside).elim owned.number_read readable.printable.number_read
  | @member owner name keys value valid names readable =>
      have chain : Expr.Printable context (Expr.chain owner keys) :=
        Expr.printable_chain valid fun key mem => names key (List.mem_append_left _ mem)
      exact (List.mem_append.1 inside).elim chain.number_read readable.printable.number_read

namespace Binding

/-- Every number literal in a compiled program is printed as a decimal literal, and its value is the
floating-point number for the fraction that this literal denotes. It is a literal of the standard
exactly when it does not begin with zero and another digit. -/
theorem number_literals_denote {global : Int} {binding : String} {p : Program}
    (built : (build global context binding).result = .ok p) {st : Stmt} (mem : st ∈ p.statements)
    (inside : Expr.lit text (.number v) ∈ st.parts) :
    let printed := (Expr.lit text (.number v)).source.toList
    (∀ w f locals, (Expr.lit text (.number v)).eval w f locals = .ok (.number v)) ∧
      (∃ q, Number.Spells Number.IsDigits printed q) ∧
      ∀ q, Number.Spells Number.IsDigits printed q → Number.RoundsTo q v ∧
        (Number.Spells Number.IsStandard printed q ↔ ¬ Number.LeadingZero printed) := by
  obtain ⟨setup, assign, isAssign, assigns⟩ := build_written built
  have read : (Piece.number text).Valid ∧ Number.read text.toList = .ok v := by
    rw [Program.statements, isAssign, List.mem_append] at mem
    rcases mem with inSetup | last
    · exact (setup st inSetup).number_read inside
    · rw [Option.toList_some, List.mem_singleton] at last
      subst last
      exact assigns.number_read inside
  obtain ⟨⟨numeral, starts⟩, read⟩ := read
  obtain ⟨decimal, -⟩ := Number.read_numeral numeral starts read
  refine ⟨fun w f locals => rfl, Number.exists_spells numeral decimal, fun q spells => ?_⟩
  exact ⟨spells.roundsTo starts read, Number.spells_standard_iff spells⟩

def scaledText : String := "x = 12.50E+2 * .5"

def scaledProgram : Program :=
  let scaled := Expr.lit "12.50E+2" (.number (Number.ofDecimal 1250 0))
  let half := Expr.lit ".5" (.number (Number.ofDecimal 5 (-1)))
  ⟨[], some (.setProperty (.bound 1) "x" (.binary .mul scaled half))⟩

theorem build_scaledText : (build 0 1 scaledText).result = .ok scaledProgram := by
  have scanned : Token.scan scaledText = [⟨.identifier, 0, "x"⟩, ⟨.assign, 2, "="⟩,
      ⟨.number, 4, "12.50E+2"⟩, ⟨.operator, 13, "*"⟩, ⟨.number, 15, ".5"⟩, Token.eofAt 17] := by
    decide +kernel
  unfold build Assignment.ofText
  rw [Token.scanRaw, scanned]
  rfl

theorem spells_scaled : Number.Spells Number.IsDigits "12.50E+2".toList 1250 := by
  have whole : Number.valueOf ['1', '2'] = 12 := rfl
  have fraction : Number.valueOf ['5', '0'] = 50 := rfl
  have exponent : Number.valueOf ['2'] = 2 := rfl
  have value : ((Number.valueOf ['1', '2'] : ℚ) + Number.valueOf ['5', '0'] / 10 ^ ['5', '0'].length) *
      10 ^ (Number.valueOf ['2'] : ℤ) = 1250 := by
    rw [whole, fraction, exponent]
    norm_num
  have twelve : Number.IsDigits ['1', '2'] := ⟨List.cons_ne_nil _ _, rfl⟩
  have fifty : ['5', '0'].all Text.isAsciiDigit = true := rfl
  have two : Number.IsDigits ['2'] := ⟨List.cons_ne_nil _ _, rfl⟩
  rw [← value]
  exact .point twelve fifty (.plus (.inr rfl) two)

/-- A literal with a fraction and an exponent. -/
theorem scaledProgram_literal :
    let literal := Expr.lit "12.50E+2" (.number (Number.ofDecimal 1250 0))
    (build 0 1 scaledText).result = .ok scaledProgram ∧
      (∃ st ∈ scaledProgram.statements, literal ∈ st.parts) ∧
      Number.Spells Number.IsStandard literal.source.toList 1250 ∧
      Number.RoundsTo 1250 (Number.ofDecimal 1250 0) := by
  have mem : Stmt.setProperty (.bound 1) "x" (.binary .mul
      (.lit "12.50E+2" (.number (Number.ofDecimal 1250 0)))
      (.lit ".5" (.number (Number.ofDecimal 5 (-1))))) ∈ scaledProgram.statements :=
    List.mem_singleton.2 rfl
  have inside : Expr.lit "12.50E+2" (.number (Number.ofDecimal 1250 0)) ∈
      [Expr.lit "12.50E+2" (.number (Number.ofDecimal 1250 0)),
        Expr.lit ".5" (.number (Number.ofDecimal 5 (-1)))] := List.mem_cons_self
  have inside := List.mem_cons_of_mem (Expr.binary .mul
    (.lit "12.50E+2" (.number (Number.ofDecimal 1250 0)))
    (.lit ".5" (.number (Number.ofDecimal 5 (-1))))) inside
  obtain ⟨rounds, standard⟩ :=
    (number_literals_denote build_scaledText mem inside).2.2 1250 spells_scaled
  refine ⟨build_scaledText, ⟨_, mem, inside⟩, standard.2 ?_, rounds⟩
  rintro ⟨d, after, -, shape⟩
  cases shape

/-- Zeros before another digit are accepted and printed. -/
theorem leading_zero_printed :
    (build 0 1 "x = 010").result =
        .ok ⟨[], some (.setProperty (.bound 1) "x" (.lit "010" (.number (Number.ofDecimal 10 0))))⟩ ∧
      ∀ q, ¬ Number.Spells Number.IsStandard
        (Expr.lit "010" (.number (Number.ofDecimal 10 0))).source.toList q := by
  have scanned : Token.scan "x = 010" = [⟨.identifier, 0, "x"⟩, ⟨.assign, 2, "="⟩,
      ⟨.number, 4, "010"⟩, Token.eofAt 7] := by
    decide +kernel
  constructor
  · unfold build Assignment.ofText
    rw [Token.scanRaw, scanned]
    rfl
  · intro q spells
    exact spells.not_leadingZero ⟨'1', ['0'], rfl, rfl⟩

end Binding

end PageBinding
