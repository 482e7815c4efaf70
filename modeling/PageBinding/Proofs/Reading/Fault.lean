import PageBinding.Proofs.Reading.Placed

/-!
Where and why reading a side can fail. A reader looks only at the tokens of its side and at the end of
the side, so each fault that it reports is at one of these. The causes are never those of a text that
cannot be cut at an equals sign, and never that a side is too deep to be read.
-/
namespace PageBinding

/-- Causes that are found before either side of a binding is read. -/
def Cause.isCutting : Cause → Bool
  | .lexical _ | .targetMissing | .valueMissing | .assignMissing => true
  | _ => false

/-- Causes that lie in the compiler and not in the text. -/
def Cause.isInternal : Cause → Bool
  | .noPlaceholder | .tooDeep => true
  | _ => false

/-- Causes that lie in one of the sides of a binding. -/
def Cause.isReading (cause : Cause) : Bool :=
  !cause.isCutting && !cause.isInternal

namespace Binding

/-- A token of a side, or the end of the side. -/
def Belongs (stop : Nat) (side : List Token) (t : Token) : Prop :=
  t ∈ side ∨ t = .eofAt stop

/-- A fault found by reading a side: it is at a token of the side or at its end. -/
def FaultOf (stop : Nat) (side : List Token) (fault : Fault) : Prop :=
  fault.cause.isReading = true ∧ ∃ t, Belongs stop side t ∧ fault.offset = t.offset

variable {stop : Nat} {side : List Token}

theorem FaultOf.not_cutting {fault : Fault} (h : FaultOf stop side fault) :
    fault.cause.isCutting = false := by
  have reading := h.1
  rw [Cause.isReading, Bool.and_eq_true, Bool.not_eq_true'] at reading
  exact reading.1

theorem FaultOf.not_internal {fault : Fault} (h : FaultOf stop side fault) :
    fault.cause.isInternal = false := by
  have reading := h.1
  rw [Cause.isReading, Bool.and_eq_true, Bool.not_eq_true', Bool.not_eq_true'] at reading
  exact reading.2

theorem Belongs.faultOf {t : Token} {cause : Cause} (h : Belongs stop side t)
    (reading : cause.isReading = true) : FaultOf stop side (t.fault cause) :=
  ⟨reading, t, h, rfl⟩

theorem fault_of_mem {t : Token} {cause : Cause} (mem : t ∈ side)
    (reading : cause.isReading = true) : FaultOf stop side (t.fault cause) :=
  ⟨reading, t, .inl mem, rfl⟩

theorem fault_at_end {cause : Cause} (reading : cause.isReading = true) :
    FaultOf stop side ((Token.eofAt stop).fault cause) :=
  ⟨reading, _, .inr rfl, rfl⟩

theorem belongs_next {rest : List Token} (inside : rest ⊆ side) :
    Belongs stop side (nextToken stop rest) := by
  cases rest with
  | nil => exact .inr rfl
  | cons t rest => exact .inl (inside List.mem_cons_self)

/-! ## Paths -/

theorem segment_fault {t : Token} {fault : Fault} (h : segment t = .error fault) :
    fault = t.fault .reservedName := by
  unfold segment at h
  split at h
  · cases h
    rfl
  · cases h

theorem pathTail_fault {toks : List Token} {fault : Fault} (inside : toks ⊆ side)
    (h : pathTail stop toks = .error fault) : FaultOf stop side fault := by
  fun_induction pathTail stop toks generalizing fault with
  | case1 dot t more isDot isName e failed =>
    cases h
    rw [segment_fault failed]
    exact fault_of_mem (inside (by simp)) rfl
  | case2 dot t more isDot isName name found e failed ih =>
    cases h
    exact ih (fun u mem => inside (by simp [mem])) failed
  | case3 => cases h
  | case4 dot t more isDot other =>
    cases h
    exact fault_of_mem (inside (by simp)) rfl
  | case5 => cases h
  | case6 t isDot =>
    cases h
    exact fault_at_end rfl
  | case7 => cases h
  | case8 => cases h

theorem path_fault {toks : List Token} {fault : Fault} (inside : toks ⊆ side)
    (h : path stop toks = .error fault) : FaultOf stop side fault := by
  unfold path at h
  split at h
  · cases h
    exact fault_at_end rfl
  · rename_i t more
    have belongs : Belongs stop side t := .inl (inside List.mem_cons_self)
    split at h
    · split at h
      · rename_i failed
        cases h
        rw [segment_fault failed]
        exact belongs.faultOf rfl
      · split at h
        · rename_i failed
          cases h
          exact pathTail_fault (fun u mem => inside (List.mem_cons_of_mem t mem)) failed
        · cases h
    · cases h
      exact belongs.faultOf rfl

theorem globalPath_fault {toks : List Token} {fault : Fault} (inside : toks ⊆ side)
    (h : globalPath stop toks = .error fault) : FaultOf stop side fault := by
  unfold globalPath at h
  split at h
  · rename_i dot more
    split at h
    · split at h
      · split at h
        · rename_i failed
          cases h
          exact path_fault (fun u mem => inside (List.mem_cons_of_mem dot mem)) failed
        · split at h <;> cases h
      · cases h
    · cases h
  · cases h

/-! ## Accessors -/

section
variable {text : RawText} {fn : String}

theorem arguments_fault {start : Token} {depth : Nat} {current toks : List Token} {fault : Fault}
    (first : Belongs stop side start) (inside : toks ⊆ side)
    (h : arguments fn start depth current toks = .error fault) : FaultOf stop side fault := by
  fun_induction arguments fn start depth current toks generalizing fault with
  | case1 =>
    cases h
    exact first.faultOf rfl
  | case2 depth current t more opens ih =>
    exact ih (fun u mem => inside (List.mem_cons_of_mem t mem)) h
  | case3 depth current t more opens closes deep ih =>
    exact ih (fun u mem => inside (List.mem_cons_of_mem t mem)) h
  | case4 depth current t more opens closes outside bracket =>
    cases h
    exact fault_of_mem (inside List.mem_cons_self) rfl
  | case5 => cases h
  | case6 depth current t more opens closes comma e failed ih =>
    cases h
    exact ih (fun u mem => inside (List.mem_cons_of_mem t mem)) failed
  | case7 => cases h
  | case8 depth current t more opens closes other ih =>
    exact ih (fun u mem => inside (List.mem_cons_of_mem t mem)) h

theorem firstEmpty_none {number : Nat} {args : List (List Token)} (h : firstEmpty number args = none) :
    ∀ arg ∈ args, arg ≠ [] := by
  induction args generalizing number with
  | nil => exact nofun
  | cons arg args ih =>
    unfold firstEmpty at h
    split at h
    · cases h
    · rename_i some
      exact List.forall_mem_cons.2 ⟨by simpa using some, ih h⟩

theorem unquoted_fault {t : Token} {fault : Fault} (belongs : Belongs stop side t)
    (h : unquoted text t = .error fault) : FaultOf stop side fault := by
  unfold unquoted at h
  split at h
  · cases h
  · cases h
    exact belongs.faultOf rfl

/-- The first token of an argument that is not empty. -/
theorem belongs_head {arg : List Token} (some : arg ≠ []) (inside : arg ⊆ side) :
    Belongs stop side (arg.headD (.eofAt 0)) := by
  obtain ⟨t, rest, rfl⟩ := List.exists_cons_of_ne_nil some
  exact .inl (inside List.mem_cons_self)

theorem locator_fault {arg : List Token} {whole : Bool} {fault : Fault} (some : arg ≠ [])
    (inside : arg ⊆ side) (h : locator text fn arg whole = .error fault) : FaultOf stop side fault := by
  have first : Belongs stop side (arg.headD (.eofAt 0)) := belongs_head some inside
  unfold locator at h
  split at h
  · rename_i t
    have belongs : Belongs stop side t := first
    split at h
    · split at h
      · rename_i failed
        cases h
        exact unquoted_fault belongs failed
      · split at h
        · cases h
          exact belongs.faultOf rfl
        · cases h
    · split at h
      · cases h
      · cases h
        exact belongs.faultOf rfl
  · cases h
    exact first.faultOf rfl

theorem accessorName_fault {arg : List Token} {fault : Fault} (some : arg ≠ []) (inside : arg ⊆ side)
    (h : accessorName text fn arg = .error fault) : FaultOf stop side fault := by
  have first : Belongs stop side (arg.headD (.eofAt 0)) := belongs_head some inside
  rw [accessorName_eq] at h
  split at h
  · rename_i failed
    cases h
    unfold argumentText at failed
    split at failed
    · split at failed
      · exact unquoted_fault first failed
      · cases failed
    · cases failed
  · rename_i name said
    cases valid : (if fn = "prop" then isPropName name.toText else isAttrName name.toText) with
    | false =>
      rw [valid] at h
      cases h
      exact first.faultOf rfl
    | true =>
      rw [valid] at h
      simp only [Bool.not_true, Bool.false_eq_true, if_false] at h
      split at h
      · cases h
        exact first.faultOf rfl
      · cases h

theorem accessorOf_fault {start : Token} {args : List (List Token)} {fault : Fault}
    (first : Belongs stop side start) (inside : ∀ arg ∈ args, arg ⊆ side)
    (h : accessorOf text fn start args = .error fault) : FaultOf stop side fault := by
  rw [accessorOf_eq] at h
  split at h
  · cases h
    exact first.faultOf rfl
  · rename_i few
    split at h
    · cases h
      exact first.faultOf rfl
    · split at h
      · cases h
        exact first.faultOf rfl
      · rename_i none
        have arg (i : Nat) (lt : i < args.length) :
            args[i]?.getD [] ≠ [] ∧ args[i]?.getD [] ⊆ side := by
          rw [List.getElem?_eq_getElem lt]
          exact ⟨firstEmpty_none none _ (List.getElem_mem lt), inside _ (List.getElem_mem lt)⟩
        have arg₀ := arg 0 (by omega)
        have arg₁ := arg 1 (by omega)
        split at h
        · rename_i failed
          cases h
          exact locator_fault arg₀.1 arg₀.2 failed
        · split at h
          · rename_i failed
            cases h
            exact accessorName_fault arg₁.1 arg₁.2 failed
          · cases h

theorem accessor_fault {toks : List Token} {fault : Fault} (inside : toks ⊆ side)
    (h : accessor text fn stop toks = .error fault) : FaultOf stop side fault := by
  cases toks with
  | nil =>
    cases h
    exact fault_at_end rfl
  | cons start rest =>
    simp only [accessor] at h
    have first : Belongs stop side start := .inl (inside List.mem_cons_self)
    have later : rest ⊆ side := fun t mem => inside (List.mem_cons_of_mem start mem)
    have later' : rest.drop 1 ⊆ side := fun t mem => later (List.mem_of_mem_drop mem)
    split at h
    · split at h
      · split at h
        · rename_i failed
          cases h
          exact arguments_fault first later' failed
        · rename_i args left read
          split at h
          · rename_i failed
            cases h
            refine accessorOf_fault first (fun arg mem t within => later' ?_) failed
            exact (arguments_mem read arg mem t within).resolve_left (by simp)
          · cases h
      · cases h
        exact (belongs_next later).faultOf rfl
    · cases h
      exact first.faultOf rfl

end

/-! ## Cutting -/

theorem ofText_fault {text : RawText} {e : BindingError} (h : Assignment.ofText text = .error e) :
    e.fault.cause.isCutting = true := by
  unfold Assignment.ofText at h
  split at h
  · cases h
  · rename_i fault failed
    cases h
    simp only [Assignment.ofTokens] at failed
    split at failed
    · cases failed
      rfl
    split at failed
    · cases failed
      rfl
    split at failed
    · cases failed
      rfl
    split at failed
    · cases failed
      rfl
    · cases failed

end Binding

end PageBinding
