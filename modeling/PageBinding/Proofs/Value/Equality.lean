import PageBinding.Proofs.Number.Order
import PageBinding.Proofs.Value.Evaluation

/-!
The two equalities of values.

Strict equality compares what values are known by (`Value.identity?`): two values are equal when both
are known by the same. So it is symmetric and transitive, and a value equals itself exactly when it is
known by something. Neither containers nor what is no number are, and no array finds them.

Loose equality asks the same questions in either order, and it never tells apart what strict equality
does not.
-/
namespace PageBinding

namespace Value

/-- An array, an object or a table. -/
def isContainer : Value → Bool
  | array _ | object _ | table _ => true
  | _ => false

/-- A text, of characters or of bytes. -/
def isText : Value → Bool
  | string _ | bytes _ => true
  | _ => false

/-- What is no number, of any kind. -/
def isNaN (v : Value) : Bool :=
  v.isNumber && v.toNumber.isNaN

/-- What a value is known by: a number by its size, whatever its kind, a container by nothing, and any
other value by itself. -/
def identity? (v : Value) : Option (ℚ ⊕ Value) :=
  if v.isNumber then (Number.value? v.toNumber).map .inl
  else if v.isContainer then none
  else some (.inr v)

variable {a b c v : Value}

theorem kinds_of_number (h : v.isNumber = true) :
    v.isNullish = false ∧ v.isText = false ∧ v.isScalar = true ∧ v.isContainer = false := by
  cases v with
  | number => exact ⟨rfl, rfl, rfl, rfl⟩
  | single => exact ⟨rfl, rfl, rfl, rfl⟩
  | int => exact ⟨rfl, rfl, rfl, rfl⟩
  | uint => exact ⟨rfl, rfl, rfl, rfl⟩
  | _ => cases h

theorem identity?_isSome (v : Value) : v.identity?.isSome = (!v.isContainer && !v.isNaN) := by
  unfold identity? isNaN
  by_cases number : v.isNumber = true
  · obtain ⟨-, -, -, single⟩ := kinds_of_number number
    rw [if_pos number, Option.isSome_map, Number.value?_isSome, number, single]
    rfl
  · rw [if_neg number, Bool.eq_false_iff.2 number]
    cases v.isContainer <;> rfl

theorem isNumber_of_identity? {q : ℚ} (h : v.identity? = some (.inl q)) : v.isNumber = true := by
  unfold identity? at h
  split at h
  · rename_i number
    exact number
  · split at h <;> cases h

theorem identity?_eq_inr {u : Value} :
    v.identity? = some (.inr u) ↔ v = u ∧ v.isNumber = false ∧ v.isContainer = false := by
  unfold identity?
  cases v.isNumber <;> cases v.isContainer <;> simp

theorem strictEq_of_numbers (h : a.isNumber = true ∧ b.isNumber = true) :
    strictEq a b = (a.toNumber == b.toNumber) := by
  unfold strictEq
  rw [if_pos (by rwa [Bool.and_eq_true])]

/-- Values that are not both numbers are equal only if they are the same. -/
theorem strictEq_of_not_numbers (h : ¬ (a.isNumber = true ∧ b.isNumber = true)) :
    strictEq a b = true ↔ a = b ∧ a.isContainer = false := by
  unfold strictEq
  rw [if_neg (by rwa [Bool.and_eq_true])]
  split
  · exact ⟨fun _ => ⟨rfl, rfl⟩, fun _ => rfl⟩
  · exact ⟨fun _ => ⟨rfl, rfl⟩, fun _ => rfl⟩
  · simp [isContainer]
  · simp [isContainer]
  · simp [isContainer]
  · simp [isContainer]
  · simp [isContainer]
  · refine ⟨fun same => absurd same Bool.false_ne_true, ?_⟩
    rintro ⟨rfl, single⟩
    cases a <;> simp_all [isNumber, isContainer]

theorem strictEq_iff : strictEq a b = true ↔ ∃ k, a.identity? = some k ∧ b.identity? = some k := by
  by_cases numbers : a.isNumber = true ∧ b.isNumber = true
  · rw [strictEq_of_numbers numbers, Number.beq_iff, identity?, identity?, if_pos numbers.1, if_pos numbers.2]
    simp only [Option.map_eq_some_iff]
    constructor
    · rintro ⟨q, value, value'⟩
      exact ⟨_, ⟨q, value, rfl⟩, ⟨q, value', rfl⟩⟩
    · rintro ⟨_, ⟨q, value, rfl⟩, ⟨_, value', ⟨⟩⟩⟩
      exact ⟨q, value, value'⟩
  · rw [strictEq_of_not_numbers numbers]
    constructor
    · rintro ⟨rfl, single⟩
      have other : a.isNumber = false := Bool.eq_false_iff.2 fun number => numbers ⟨number, number⟩
      exact ⟨.inr a, identity?_eq_inr.2 ⟨rfl, other, single⟩, identity?_eq_inr.2 ⟨rfl, other, single⟩⟩
    · rintro ⟨q | u, known, known'⟩
      · exact absurd ⟨isNumber_of_identity? known, isNumber_of_identity? known'⟩ numbers
      · obtain ⟨rfl, -, single⟩ := identity?_eq_inr.1 known
        obtain ⟨rfl, -, -⟩ := identity?_eq_inr.1 known'
        exact ⟨rfl, single⟩

/-! ## Strict equality -/

theorem strictEq_comm (a b : Value) : strictEq a b = strictEq b a := by
  rw [Bool.eq_iff_iff, strictEq_iff, strictEq_iff]
  exact exists_congr fun _ => And.comm

theorem strictEq_trans (h : strictEq a b = true) (h' : strictEq b c = true) :
    strictEq a c = true := by
  obtain ⟨k, known, same⟩ := strictEq_iff.1 h
  obtain ⟨l, same', known'⟩ := strictEq_iff.1 h'
  obtain rfl : k = l := Option.some.inj (same.symm.trans same')
  exact strictEq_iff.2 ⟨k, known, known'⟩

/-- A value equals itself unless it is a container or no number. -/
theorem strictEq_self (v : Value) : strictEq v v = (!v.isContainer && !v.isNaN) := by
  rw [← identity?_isSome, Bool.eq_iff_iff, strictEq_iff, Option.isSome_iff_exists]
  exact exists_congr fun _ => and_self_iff

/-- What does not equal itself equals nothing. -/
theorem strictEq_of_self (h : strictEq v v = false) (a : Value) : strictEq a v = false := by
  refine Bool.eq_false_iff.2 fun same => ?_
  rw [strictEq_trans ((strictEq_comm v a).trans same) same] at h
  cases h

/-! ## Searching arrays -/

section

variable {items : List Value}

theorem exists_index (same : strictEq v v = true) (mem : v ∈ items) :
    ∃ i u, indexIn v items = some i ∧ items[i]? = some u ∧ strictEq u v = true := by
  have found : (indexIn v items).isSome = true := by
    rw [indexIn, List.findIdx?_isSome, List.any_eq_true]
    exact ⟨v, mem, same⟩
  obtain ⟨i, first⟩ := Option.isSome_iff_exists.1 found
  obtain ⟨inside, equal, -⟩ := List.findIdx?_eq_some_iff_getElem.1 first
  exact ⟨i, items[i], first, List.getElem?_eq_getElem inside, equal⟩

theorem indexIn_of_self (other : strictEq v v = false) : indexIn v items = none :=
  List.findIdx?_eq_none_iff.2 fun item _ => strictEq_of_self other item

theorem zero_le_ofNat (n : Nat) : (0.0 : Float) ≤ Float.ofNat n := by
  cases n with
  | zero => decide
  | succ n =>
      obtain ⟨p, q, value, value', less⟩ := Number.lt_iff.1 (Number.zero_lt_ofNat n.succ_pos)
      exact Number.le_iff.2 ⟨p, q, value, value', less.le⟩

theorem callMethod_indexOf (w : World) (v : Value) (items : List Value) :
    w.callMethod (array items) "indexOf" [v] =
      .ok (((indexIn v items).map ofNat).getD (number (-1.0))) := by
  have method : arrayMethod? "indexOf" items [v] =
      some (((indexIn v items).map ofNat).getD (number (-1.0))) := by
    cases found : indexIn v items <;> simp [arrayMethod?, argument, found]
  show ((arrayMethod? "indexOf" items [v]).map Except.ok).getD _ = _
  rw [method]
  rfl

/-- A value equals itself and is found in every array that it is an item of, at a position that is not
negative, unless it is a container or no number; those are found in no array. -/
theorem found_unless_container (w : World) (v : Value) (items : List Value) :
    (v.isContainer = false ∧ v.isNaN = false →
        binary .strictEq v v = .ok (bool true) ∧
          (v ∈ items →
            w.callMethod (array items) "includes" [v] = .ok (bool true) ∧
              ∃ i u, w.callMethod (array items) "indexOf" [v] = .ok (ofNat i) ∧
                0.0 ≤ Float.ofNat i ∧ items[i]? = some u ∧ strictEq u v = true)) ∧
      (v.isContainer = true ∨ v.isNaN = true →
        binary .strictEq v v = .ok (bool false) ∧
          w.callMethod (array items) "includes" [v] = .ok (bool false) ∧
          w.callMethod (array items) "indexOf" [v] = .ok (number (-1.0))) := by
  have equal : binary .strictEq v v = .ok (bool (!v.isContainer && !v.isNaN)) := by
    rw [← strictEq_self]
    rfl
  have includes : w.callMethod (array items) "includes" [v] =
      .ok (bool (indexIn v items).isSome) := rfl
  constructor
  · intro known
    have same : strictEq v v = true := by rw [strictEq_self, known.1, known.2]; rfl
    rw [equal, known.1, known.2]
    refine ⟨rfl, fun mem => ?_⟩
    obtain ⟨i, u, found, item, equal⟩ := exists_index same mem
    refine ⟨by rw [includes, found]; rfl, i, u, ?_, zero_le_ofNat i, item, equal⟩
    rw [callMethod_indexOf, found]
    rfl
  · intro unknown
    have other : strictEq v v = false := by
      rw [strictEq_self]
      rcases unknown with container | none
      · rw [container]
        rfl
      · rw [none, Bool.not_true, Bool.and_false]
    have equal : binary .strictEq v v = .ok (bool (strictEq v v)) := rfl
    rw [equal, includes, callMethod_indexOf, indexIn_of_self other, other]
    exact ⟨rfl, rfl, rfl⟩

/-- Zero is found by its size, beside values that are never found. -/
theorem found_unless_container_zero :
    let items := [array [], number Number.nan, int 0, number (-0.0)]
    (number (-0.0)).isContainer = false ∧ (number (-0.0)).isNaN = false ∧ number (-0.0) ∈ items ∧
      ∀ w : World,
        w.callMethod (array items) "includes" [number (-0.0)] = .ok (bool true) ∧
        w.callMethod (array items) "includes" [array []] = .ok (bool false) := by
  intro items
  have isSome : (number (-0.0)).isNaN = false := rfl
  have mem : number (-0.0) ∈ items := by simp [items]
  refine ⟨rfl, isSome, mem, fun w => ⟨?_, ?_⟩⟩
  · exact (((found_unless_container w _ _).1 ⟨rfl, isSome⟩).2 mem).1
  · exact ((found_unless_container w _ _).2 (.inl rfl)).2.1

/-- An object does not equal itself, and an array does not find the object that it holds. -/
theorem object_not_found :
    (object ⟨0⟩).isNaN = false ∧ binary .strictEq (object ⟨0⟩) (object ⟨0⟩) = .ok (bool false) ∧
      ∀ w : World,
        w.callMethod (array [object ⟨0⟩]) "includes" [object ⟨0⟩] = .ok (bool false) ∧
        w.callMethod (array [object ⟨0⟩]) "indexOf" [object ⟨0⟩] = .ok (number (-1.0)) :=
  ⟨rfl, rfl, fun _ => ⟨rfl, rfl⟩⟩

end

/-! ## Loose equality -/

theorem looseEq_of_nullish (h : a.isNullish = true ∨ b.isNullish = true) :
    looseEq a b = (a.isNullish && b.isNullish) := by
  unfold looseEq
  rw [if_pos (by rwa [Bool.or_eq_true])]

/-- Texts are compared as they are. -/
theorem looseEq_of_texts (ha : a.isText = true) (hb : b.isText = true) :
    looseEq a b = strictEq a b := by
  cases a with
  | string s =>
      cases b with
      | string t => rfl
      | bytes t => rfl
      | _ => cases hb
  | bytes s =>
      cases b with
      | string t => rfl
      | bytes t => rfl
      | _ => cases hb
  | _ => cases ha

theorem looseEq_of_not_texts (ha : a.isNullish = false) (hb : b.isNullish = false)
    (h : ¬ (a.isText = true ∧ b.isText = true)) :
    looseEq a b =
      if a.isScalar && b.isScalar then a.toNumber == b.toNumber
      else if a.isScalar || b.isScalar then a.toBytes == b.toBytes
      else strictEq a b := by
  unfold looseEq
  rw [ha, hb]
  cases a with
  | string s =>
      cases b with
      | string t => exact absurd ⟨rfl, rfl⟩ h
      | bytes t => exact absurd ⟨rfl, rfl⟩ h
      | _ => rfl
  | bytes s =>
      cases b with
      | string t => exact absurd ⟨rfl, rfl⟩ h
      | bytes t => exact absurd ⟨rfl, rfl⟩ h
      | _ => rfl
  | _ => rfl

theorem looseEq_comm (a b : Value) : looseEq a b = looseEq b a := by
  by_cases nullish : a.isNullish = true ∨ b.isNullish = true
  · rw [looseEq_of_nullish nullish, looseEq_of_nullish nullish.symm, Bool.and_comm]
  · rw [not_or, Bool.not_eq_true, Bool.not_eq_true] at nullish
    by_cases texts : a.isText = true ∧ b.isText = true
    · rw [looseEq_of_texts texts.1 texts.2, looseEq_of_texts texts.2 texts.1, strictEq_comm]
    · have asTexts : (a.toBytes == b.toBytes) = (b.toBytes == a.toBytes) := BEq.comm
      rw [looseEq_of_not_texts nullish.1 nullish.2 texts,
        looseEq_of_not_texts nullish.2 nullish.1 (fun h => texts h.symm), Bool.and_comm, Bool.or_comm,
        Number.beq_comm, asTexts, strictEq_comm]

theorem looseEq_of_strictEq (h : strictEq a b = true) : looseEq a b = true := by
  by_cases numbers : a.isNumber = true ∧ b.isNumber = true
  · obtain ⟨some, notText, scalar, -⟩ := kinds_of_number numbers.1
    obtain ⟨some', -, scalar', -⟩ := kinds_of_number numbers.2
    rw [looseEq_of_not_texts some some' (by simp [notText]), scalar, scalar']
    rwa [strictEq_of_numbers numbers] at h
  · obtain ⟨rfl, single⟩ := (strictEq_of_not_numbers numbers).1 h
    cases a with
    | null => rfl
    | undefined => rfl
    | bool p => cases p <;> rfl
    | string s => rwa [looseEq_of_texts rfl rfl]
    | bytes bs => rwa [looseEq_of_texts rfl rfl]
    | element e => exact h
    | event e => exact h
    | array items => cases single
    | object ref => cases single
    | table entries => cases single
    | _ => exact absurd ⟨rfl, rfl⟩ numbers

theorem looseEq_nullish (ha : a.isNullish = true) (b : Value) :
    looseEq a b = true ↔ b = null ∨ b = undefined := by
  rw [looseEq_of_nullish (.inl ha), ha, Bool.true_and]
  cases b <;> simp [isNullish]

end Value

/-! ## Operators -/

namespace Expr

variable {op other : BinaryOp}

/-- An operator that always gives the opposite of another is the other negated. -/
theorem eval_opposite (w : World) (f : Frame) (locals : Locals) (l r : Expr)
    (opposite : ∀ a b, ∃ p, Value.binary op a b = .ok (.bool p) ∧
      Value.binary other a b = .ok (.bool !p)) :
    (binary other l r).eval w f locals = (unary .not (binary op l r)).eval w f locals := by
  have ne {o : BinaryOp} (undefined : ∀ v, Value.binary o .null .null ≠ .ok v) : op ≠ o ∧ other ≠ o := by
    obtain ⟨p, holds, holds'⟩ := opposite .null .null
    constructor
    · rintro rfl
      exact undefined _ holds
    · rintro rfl
      exact undefined _ holds'
  have notAnd := ne (o := .and) fun v holds => by cases holds
  have notOr := ne (o := .or) fun v holds => by cases holds
  have negated : (unary .not (binary op l r)).eval w f locals =
      (binary op l r).eval w f locals >>= fun v => applied (Value.unary .not v) := rfl
  rw [negated, eval_operator w f locals l r notAnd.1 notOr.1,
    eval_operator w f locals l r notAnd.2 notOr.2]
  cases l.eval w f locals with
  | error e => rfl
  | ok a =>
      cases r.eval w f locals with
      | error e => rfl
      | ok b =>
          obtain ⟨p, holds, holds'⟩ := opposite a b
          show applied (Value.binary other a b) =
            applied (Value.binary op a b) >>= fun v => applied (Value.unary .not v)
          rw [holds, holds']
          rfl

end Expr

open Value in
/-- The laws of the two equalities, and of the operators that ask for them. -/
theorem equality_laws (a b c : Value) (w : World) (f : Frame) (locals : Locals) (l r : Expr) :
    strictEq a b = strictEq b a ∧
      (strictEq a b = true → strictEq b c = true → strictEq a c = true) ∧
      looseEq a b = looseEq b a ∧
      (strictEq a b = true → looseEq a b = true) ∧
      (looseEq null a = true ↔ a = null ∨ a = undefined) ∧
      (looseEq undefined a = true ↔ a = null ∨ a = undefined) ∧
      (Value.binary .strictEq a b = .ok (bool (strictEq a b)) ∧
        Value.binary .strictNe a b = .ok (bool !strictEq a b)) ∧
      (Value.binary .looseEq a b = .ok (bool (looseEq a b)) ∧
        Value.binary .looseNe a b = .ok (bool !looseEq a b)) ∧
      (Expr.binary .strictNe l r).eval w f locals =
        (Expr.unary .not (.binary .strictEq l r)).eval w f locals ∧
      (Expr.binary .looseNe l r).eval w f locals =
        (Expr.unary .not (.binary .looseEq l r)).eval w f locals := by
  refine ⟨strictEq_comm a b, strictEq_trans, looseEq_comm a b, looseEq_of_strictEq,
    looseEq_nullish rfl a, looseEq_nullish rfl a, ⟨rfl, rfl⟩, ⟨rfl, rfl⟩, ?_, ?_⟩
  · exact Expr.eval_opposite w f locals l r fun a b => ⟨strictEq a b, rfl, rfl⟩
  · exact Expr.eval_opposite w f locals l r fun a b => ⟨looseEq a b, rfl, rfl⟩

open Value in
/-- Zeros of three kinds and of both signs. -/
theorem equality_laws_zeros :
    strictEq (int 0) (number (-0.0)) = true ∧ strictEq (number (-0.0)) (uint 0) = true ∧
      strictEq (int 0) (uint 0) = true ∧ looseEq (int 0) (number (-0.0)) = true := by
  have first : strictEq (int 0) (number (-0.0)) = true := rfl
  have second : strictEq (number (-0.0)) (uint 0) = true := rfl
  have laws := equality_laws (int 0) (number (-0.0)) (uint 0) .empty default [] .event .event
  exact ⟨first, second, laws.2.1 first second, laws.2.2.2.1 first⟩

end PageBinding
