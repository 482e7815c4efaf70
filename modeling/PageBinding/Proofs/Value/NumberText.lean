import PageBinding.Proofs.Number.Shortest
import PageBinding.Proofs.Run.Effect
import PageBinding.Proofs.Value.Evaluation

/-!
Numbers that are written with an exponent: those from `10²¹` on, and of the others those that are not
whole and below `10⁻⁴` or not below `10⁶`.

A number is on the same side of a power of ten as its digits are, so it is enough to look at the place
of their point (`Digits.point_le_iff`).
-/
namespace PageBinding

open Number

namespace Digits

variable {d : Digits} {b : Binary}

theorem mem_positional {c : Char} {places : ℕ} (mem : c ∈ d.positional places) :
    c = '0' ∨ c = '.' ∨ c ∈ d.digits := by
  have whole (mem : c ∈ if d.point ≤ 0 then ['0'] else
      d.digits.take d.point.toNat ++ List.replicate (d.point.toNat - d.digits.length) '0') :
      c = '0' ∨ c = '.' ∨ c ∈ d.digits := by
    split_ifs at mem
    · exact .inl (List.mem_singleton.1 mem)
    · rcases List.mem_append.1 mem with taken | zero
      · exact .inr (.inr (List.mem_of_mem_take taken))
      · exact .inl (List.eq_of_mem_replicate zero)
  unfold positional at mem
  dsimp only at mem
  by_cases none : places = 0
  · rw [if_pos none] at mem
    exact whole mem
  · rw [if_neg none] at mem
    rcases List.mem_append.1 mem with before | rest
    · exact whole before
    · rcases List.mem_cons.1 rest with point | after
      · exact .inr (.inl point)
      · obtain ⟨i, -, rfl⟩ := List.mem_map.1 after
        split_ifs
        · cases found : d.digits[(d.point + i).toNat]? with
          | none => exact .inl rfl
          | some c => exact .inr (.inr (List.mem_of_getElem? found))
        · exact .inl rfl

theorem not_mem_positional (h : 'e' ∉ d.digits) (places : ℕ) : 'e' ∉ d.positional places := by
  intro mem
  rcases mem_positional mem with zero | point | digit
  · exact absurd zero (by decide)
  · exact absurd point (by decide)
  · exact h digit

theorem mem_scientific (d : Digits) : 'e' ∈ d.scientific := by
  unfold scientific
  dsimp only
  exact List.mem_append_right _ (List.mem_cons_self ..)

theorem not_mem_shortest (b : Binary) : 'e' ∉ (shortest .double b).digits := by
  have trim (m : ℕ) : 'e' ∉ trimmed (ofNat m) := by
    intro mem
    unfold trimmed at mem
    have mem : 'e' ∈ ofNat m := List.mem_reverse.1 (List.dropWhile_subset _ (List.mem_reverse.1 mem))
    unfold ofNat at mem
    split_ifs at mem
    · cases mem
    · rw [Nat.toList_repr] at mem
      exact absurd (Nat.isDigit_of_mem_toDigits (by decide) (by decide) mem) (by decide)
  unfold shortest
  split_ifs
  · exact List.not_mem_nil
  · dsimp only
    split
    · exact trim _
    · exact List.not_mem_nil

/-- An exponent is written if the point stands too far from the first digit. -/
theorem mem_general (h : 'e' ∉ d.digits) :
    'e' ∈ d.general ↔ d.digits ≠ [] ∧ (d.point ≤ -4 ∨ ¬ d.point ≤ 6) := by
  have plain := not_mem_positional h d.places
  unfold general
  dsimp only
  by_cases empty : d.digits = []
  · rw [if_pos (List.isEmpty_iff.2 empty), if_neg (by decide)]
    exact ⟨fun mem => absurd mem plain, fun h => absurd empty h.1⟩
  · rw [if_neg (mt List.isEmpty_iff.1 empty)]
    by_cases far : d.point ≤ -4 ∨ ¬ d.point ≤ 6
    · rw [if_pos]
      · exact ⟨fun _ => ⟨empty, far⟩, fun _ => mem_scientific d⟩
      · rw [Bool.or_eq_true, decide_eq_true_iff, decide_eq_true_iff]
        omega
    · rw [if_neg]
      · exact ⟨fun mem => absurd mem plain, fun h => absurd h.2 far⟩
      · rw [Bool.or_eq_true, decide_eq_true_iff, decide_eq_true_iff]
        omega

/-- The number for a ten-thousandth. -/
def tenThousandth : Binary := ⟨false, 7378697629483821, -66⟩

/-- The number for a million. -/
def million : Binary := ⟨false, 8589934592000000, -33⟩

theorem tenThousandth_fits : Fits tenThousandth.mantissa tenThousandth.exponent :=
  ⟨by decide, .inl (by decide), by decide, by decide⟩

theorem million_fits : Fits million.mantissa million.exponent :=
  ⟨by decide, .inl (by decide), by decide, by decide⟩

theorem general_double (fits : Fits b.mantissa b.exponent) :
    'e' ∈ (shortest .double b).general ↔
      0 < b.mantissa ∧ (b.size < tenThousandth.size ∨ million.size ≤ b.size) := by
  rw [mem_general (not_mem_shortest b)]
  rcases Nat.eq_zero_or_pos b.mantissa with zero | positive
  · have empty : (shortest .double b).digits = [] := by rw [shortest, if_pos zero]
    exact ⟨fun h => absurd empty h.1, fun h => absurd zero h.1.ne'⟩
  · obtain ⟨q, stands⟩ := exists_stands fits positive
    have small : (shortest .double b).point ≤ -4 ↔ b.size < tenThousandth.size := by
      have half : gap tenThousandth = 2 ^ (-66 : ℤ) / 2 := if_neg (by decide)
      refine point_le_iff fits positive tenThousandth_fits ?_ ?_ (by decide +kernel)
      · rw [half]
        norm_num [Binary.size, tenThousandth]
      · norm_num [Binary.size, tenThousandth]
    have large : (shortest .double b).point ≤ 6 ↔ b.size < million.size := by
      have half : gap million = 2 ^ (-33 : ℤ) / 2 := if_neg (by decide)
      refine point_le_iff fits positive million_fits ?_ ?_ (by decide +kernel)
      · rw [half]
        norm_num [Binary.size, million]
      · norm_num [Binary.size, million]
    rw [small, large, not_lt]
    exact ⟨fun h => ⟨positive, h.2⟩, fun h => ⟨stands.some, h.2⟩⟩

end Digits

namespace Number

variable {x : Float} {b : Binary}

/-- A number without a fraction. -/
def IsWhole (x : Float) : Prop :=
  ∃ n : ℤ, value? x = some (n : ℚ)

theorem isWhole_iff (parts : Binary.ofFloat? x = some b) : IsWhole x ↔ ∃ n : ℤ, b.value = n := by
  rw [IsWhole, Binary.value?_of_parts parts]
  simp only [Option.some.injEq]

theorem mem_written {body : Binary → List Char} (parts : Binary.ofFloat? x = some b) :
    'e' ∈ (written .double x.toBits.toNat specials body).toList ↔ 'e' ∈ body b := by
  have bits : Binary.ofBits? .double x.toBits.toNat = some b := parts
  unfold written
  rw [bits]
  dsimp only
  rw [String.toList_ofList]
  split_ifs
  · rw [List.mem_cons]
    exact or_iff_right (by decide)
  · rfl

theorem not_special (parts : Binary.ofFloat? x = some b) :
    x.isNaN = false ∧ (x == infinity) = false ∧ (x == negativeInfinity) = false := by
  have value := Binary.value?_of_parts parts
  obtain ⟨low, high⟩ := (Binary.size_lt_iff b (2 ^ 1024)).1 (Binary.fits_of_parts parts).lt_infinity
  have infinite : value? infinity = some (2 ^ 1024) := rfl
  have negative : value? negativeInfinity = some (-2 ^ 1024) := rfl
  refine ⟨?_, ?_, ?_⟩
  · have number := value?_isSome x
    rw [value, Option.isSome_some, eq_comm, Bool.not_eq_true'] at number
    exact number
  · rw [Bool.eq_false_iff, Ne, beq_iff, value, infinite]
    rintro ⟨q, same, same'⟩
    exact high.ne (Option.some.inj (same.trans same'.symm))
  · rw [Bool.eq_false_iff, Ne, beq_iff, value, negative]
    rintro ⟨q, same, same'⟩
    exact low.ne' (Option.some.inj (same.trans same'.symm))

/-- The number up to which whole numbers are written out. -/
def limit : Binary := ⟨false, 7629394531250000, 17⟩

theorem within_limit_iff (parts : Binary.ofFloat? x = some b) :
    (decide (-Value.plainLimit < x) && decide (x < Value.plainLimit)) = true ↔ b.size < limit.size := by
  have value := Binary.value?_of_parts parts
  have upper : value? Value.plainLimit = some limit.size :=
    Binary.value?_of_parts (show Binary.ofFloat? Value.plainLimit = some limit from rfl)
  have lower : value? (-Value.plainLimit) = some (-limit.size) :=
    Binary.value?_of_parts (show Binary.ofFloat? (-Value.plainLimit) =
      some { limit with negative := true } from rfl)
  rw [Bool.and_eq_true, decide_eq_true_iff, decide_eq_true_iff, lt_iff, lt_iff, value, upper, lower,
    Binary.size_lt_iff]
  simp only [Option.some.injEq, exists_eq_left', exists_and_left]

/-- The digits of a number have an exponent if it is not written out and not near enough to one. -/
theorem mem_numberText (parts : Binary.ofFloat? x = some b) :
    'e' ∈ (Value.numberText x).toList ↔ ¬ (IsWhole x ∧ b.size < limit.size) ∧ 0 < b.mantissa ∧
      (b.size < Digits.tenThousandth.size ∨ Digits.million.size ≤ b.size) := by
  obtain ⟨number, finite, finite'⟩ := not_special parts
  have whole : (x == truncate x) = true ↔ IsWhole x :=
    (Binary.beq_truncate parts).trans (isWhole_iff parts).symm
  have limited := within_limit_iff parts
  unfold Value.numberText
  rw [if_neg (ne_true_of_eq_false number), if_neg (ne_true_of_eq_false finite),
    if_neg (ne_true_of_eq_false finite'), Bool.and_assoc]
  by_cases written : IsWhole x ∧ b.size < limit.size
  · rw [if_pos (Bool.and_eq_true_iff.2 ⟨whole.2 written.1, limited.2 written.2⟩), plain, mem_written parts]
    exact ⟨fun mem => absurd mem (Digits.not_mem_positional (Digits.not_mem_shortest b) _),
      fun h => absurd written h.1⟩
  · have general' : ¬ (x == truncate x &&
        (decide (-Value.plainLimit < x) && decide (x < Value.plainLimit))) = true :=
      fun h => written (And.imp whole.1 limited.1 (Bool.and_eq_true_iff.1 h))
    rw [if_neg general', general, mem_written parts, Digits.general_double (Binary.fits_of_parts parts)]
    exact (and_iff_right written).symm

theorem abs_compare {y : Float} {c : Binary} (parts : Binary.ofFloat? x = some b)
    (parts' : Binary.ofFloat? y = some c) (positive : c.negative = false) :
    (x.abs < y ↔ b.size < c.size) ∧ (y ≤ x.abs ↔ c.size ≤ b.size) := by
  have value := Binary.value?_abs parts
  have value' : value? y = some c.size := by
    rw [Binary.value?_of_parts parts', Binary.value, Binary.sign, positive]
    rfl
  rw [lt_iff, le_iff, value, value']
  simp only [Option.some.injEq, exists_eq_left', exists_and_left, and_self]

theorem mem_numberText_iff (finite : x.isFinite = true) :
    'e' ∈ (Value.numberText x).toList ↔
      1e21 ≤ x.abs ∨ ¬ IsWhole x ∧ (x.abs < 1e-4 ∨ 1e6 ≤ x.abs) := by
  obtain ⟨b, parts⟩ := Binary.exists_parts finite
  have huge := abs_compare parts (show Binary.ofFloat? 1e21 = some limit from rfl) rfl
  have small := abs_compare parts (show Binary.ofFloat? 1e-4 = some Digits.tenThousandth from rfl) rfl
  have large := abs_compare parts (show Binary.ofFloat? 1e6 = some Digits.million from rfl) rfl
  have below : Digits.million.size < limit.size := by norm_num [Binary.size, Digits.million, limit]
  rw [mem_numberText parts, huge.2, small.1, large.2]
  have zero (none : ¬ 0 < b.mantissa) : b.size = 0 :=
    Binary.size_of_zero (Nat.eq_zero_of_not_pos none)
  have whole (none : ¬ 0 < b.mantissa) : IsWhole x := by
    rw [isWhole_iff parts, Binary.value, Binary.signed_whole, zero none]
    exact ⟨0, Int.cast_zero.symm⟩
  have some (reached : limit.size ≤ b.size) : 0 < b.mantissa := by
    refine not_not.1 fun none => ?_
    rw [zero none] at reached
    exact reached.not_gt (by norm_num [Binary.size, limit])
  constructor
  · rintro ⟨notWritten, -, outside⟩
    by_cases reached : limit.size ≤ b.size
    · exact .inl reached
    · exact .inr ⟨fun isWhole => notWritten ⟨isWhole, not_le.1 reached⟩, outside⟩
  · rintro (reached | ⟨notWhole, outside⟩)
    · exact ⟨fun h => h.2.not_ge reached, some reached, .inr (below.le.trans reached)⟩
    · -- zero is whole
      exact ⟨fun h => notWhole h.1, not_not.1 (mt whole notWhole), outside⟩

end Number

/-- What a finite number is as text, also joined to another text and as an attribute. Without its sign,
it has an exponent from `10²¹` on, and below that if it is not whole and either less than `10⁻⁴` or not
less than `10⁶`. -/
theorem number_written {x : Float} (finite : x.isFinite = true) :
    ∃ text, (Value.number x).toText = text ∧
      ('e' ∈ text.toList ↔
        1e21 ≤ x.abs ∨ ¬ IsWhole x ∧ (x.abs < 1e-4 ∨ 1e6 ≤ x.abs)) ∧
      (∀ (w : World) (f : Frame) (locals : Locals) (value : Expr),
        value.eval w f locals = .ok (.number x) →
        (∀ l s, l.eval w f locals = .ok (.string s) →
          (Expr.binary .add l value).eval w f locals = .ok (.string (s ++ text)) ∧
            (Expr.binary .add value l).eval w f locals = .ok (.string (text ++ s))) ∧
        ∀ owner name e, owner.eval w f locals = .ok (.element e) →
          (Stmt.setAttr owner name value).exec f ⟨w, locals⟩ =
            .ok () ⟨{ w with document := w.document.setAttr e name text }, locals⟩) := by
  refine ⟨(Value.number x).toText, rfl, mem_numberText_iff finite, fun w f locals value evaluated => ⟨?_, ?_⟩⟩
  · intro l s left
    exact ⟨Expr.eval_add w f locals left evaluated, Expr.eval_add w f locals evaluated left⟩
  · intro owner name e isElement
    exact exec_setAttr_element name isElement evaluated

/-- A fraction in between has none, also joined to a text and in an attribute. -/
theorem number_written_between :
    let x : Float := 123456.789
    let value := Expr.lit "" (.number x)
    x.isFinite = true ∧ ∃ text : String, 'e' ∉ text.toList ∧
      ∀ (w : World) (f : Frame) (e : ElementRef),
        (Expr.binary .add (.lit "" (.string "n = ")) value).eval w f [] = .ok (.string ("n = " ++ text)) ∧
          (Stmt.setAttr (.lit "" (.element e)) "title" value).exec f ⟨w, []⟩ =
            .ok () ⟨{ w with document := w.document.setAttr e "title" text }, []⟩ := by
  intro x value
  have finite : x.isFinite = true := by decide
  obtain ⟨text, -, exponent, received⟩ := number_written finite
  have plain : 'e' ∉ text.toList := by
    rw [exponent]
    rintro (huge | ⟨-, small | large⟩)
    · exact absurd huge (by decide)
    · exact absurd small (by decide)
    · exact absurd large (by decide)
  refine ⟨finite, text, plain, fun w f e => ?_⟩
  obtain ⟨joined, stored⟩ := received w f [] value rfl
  exact ⟨(joined _ "n = " rfl).1, stored _ "title" e rfl⟩

/-- A small fraction, and one of seven digits before the point. -/
theorem fractions_with_exponent :
    ((1e-6 : Float) ≤ Float.abs 1e-5 ∧ Float.abs 1e-5 < 1e21 ∧ (Value.number 1e-5).toText = "1e-05") ∧
      (1e-6 : Float) ≤ Float.abs 1234567.5 ∧ Float.abs 1234567.5 < 1e21 ∧
        (Value.number 1234567.5).toText = "1.2345675e+06" := by
  decide +kernel

end PageBinding
