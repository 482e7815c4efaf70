import PageBinding.Text.Replace
import Mathlib.Data.List.Infix

/-!
Searching a text for another. A search for a text that is not empty meets, from the front, either an
occurrence, after which it goes on, or an item at which none begins (`search_induction`). Cutting and
replacing are such searches, so cutting and joining again with another text is replacing.
-/
namespace PageBinding.Text

variable {α : Type} {separator needle new part cs rest : List α} {parts : List (List α)} {c : α}

/-! ## Joining -/

theorem join_cons (separator part : List α) (more : parts ≠ []) :
    join separator (part :: parts) = part ++ separator ++ join separator parts := by
  cases parts with
  | nil => contradiction
  | cons other parts => rfl

theorem prepend_ne_nil (c : α) (parts : List (List α)) : prepend c parts ≠ [] := by
  cases parts <;> simp [prepend]

theorem join_prepend (separator : List α) (c : α) (parts : List (List α)) :
    join separator (prepend c parts) = c :: join separator parts := by
  match parts with
  | [] => rfl
  | [_] => rfl
  | _ :: _ :: _ => rfl

theorem join_nil (parts : List (List α)) : join [] parts = parts.flatten := by
  induction parts with
  | nil => rfl
  | cons part parts ih =>
    cases parts with
    | nil => simp [join]
    | cons other parts => simp [join_cons, ih]

/-! ## One search -/

theorem search_induction {motive : List α → Prop} (given : separator ≠ []) (nil : motive [])
    (found : ∀ rest, motive rest → motive (separator ++ rest))
    (next : ∀ c cs, ¬separator <+: c :: cs → motive cs → motive (c :: cs)) (cs : List α) :
    motive cs := by
  induction size : cs.length using Nat.strong_induction_on generalizing cs with
  | h n ih =>
    subst size
    by_cases here : separator <+: cs
    · obtain ⟨rest, rfl⟩ := here
      have shorter : 0 < separator.length := List.length_pos_iff.2 given
      exact found rest (ih _ (by simp; omega) rest rfl)
    · cases cs with
      | nil => exact nil
      | cons c cs => exact next c cs here (ih _ (by simp) cs rfl)

variable [BEq α]

theorem cutAt_skip (separator : List α) (skip : Nat) (cs : List α) :
    cutAt separator skip cs = cutAt separator 0 (cs.drop skip) := by
  induction cs generalizing skip with
  | nil => simp [cutAt]
  | cons c cs ih =>
    cases skip with
    | zero => rfl
    | succ skip => exact ih skip

theorem replaceAt_skip (separator new : List α) (skip : Nat) (cs : List α) :
    replaceAt separator new skip cs = replaceAt separator new 0 (cs.drop skip) := by
  induction cs generalizing skip with
  | nil => simp [replaceAt]
  | cons c cs ih =>
    cases skip with
    | zero => rfl
    | succ skip => exact ih skip

variable [LawfulBEq α]

theorem cutAt_found (given : separator ≠ []) (rest : List α) :
    cutAt separator 0 (separator ++ rest) = [] :: cutAt separator 0 rest := by
  cases separator with
  | nil => contradiction
  | cons c separator =>
    have here : (c :: separator).isPrefixOf (c :: (separator ++ rest)) = true := by simp
    rw [List.cons_append, cutAt, if_pos here, cutAt_skip]
    simp

theorem cutAt_next (absent : ¬separator <+: c :: cs) :
    cutAt separator 0 (c :: cs) = prepend c (cutAt separator 0 cs) := by
  rw [cutAt, if_neg (by simpa using absent)]

theorem replaceAt_found (given : separator ≠ []) (new rest : List α) :
    replaceAt separator new 0 (separator ++ rest) = new ++ replaceAt separator new 0 rest := by
  cases separator with
  | nil => contradiction
  | cons c separator =>
    have here : (c :: separator).isPrefixOf (c :: (separator ++ rest)) = true := by simp
    rw [List.cons_append, replaceAt, if_pos here, replaceAt_skip]
    simp

theorem replaceAt_next (absent : ¬separator <+: c :: cs) (new : List α) :
    replaceAt separator new 0 (c :: cs) = c :: replaceAt separator new 0 cs := by
  rw [replaceAt, if_neg (by simpa using absent)]

/-! ## Cutting and replacing -/

theorem cutAt_ne_nil (given : separator ≠ []) (cs : List α) : cutAt separator 0 cs ≠ [] := by
  induction cs using search_induction given with
  | nil => simp [cutAt]
  | found rest ih => simp [cutAt_found given]
  | next c cs absent ih =>
    rw [cutAt_next absent]
    exact prepend_ne_nil c _

/-- Cutting at a text and joining with another replaces it. -/
theorem join_cutAt (given : separator ≠ []) (new cs : List α) :
    join new (cutAt separator 0 cs) = replaceAt separator new 0 cs := by
  induction cs using search_induction given with
  | nil => rfl
  | found rest ih =>
    rw [cutAt_found given, join_cons _ _ (cutAt_ne_nil given rest), ih, replaceAt_found given]
    rfl
  | next c cs absent ih => rw [cutAt_next absent, join_prepend, ih, replaceAt_next absent]

theorem replaceAt_self (given : separator ≠ []) (cs : List α) :
    replaceAt separator separator 0 cs = cs := by
  induction cs using search_induction given with
  | nil => rfl
  | found rest ih => rw [replaceAt_found given, ih]
  | next c cs absent ih => rw [replaceAt_next absent, ih]

/-- The first part begins the text. -/
theorem head_cutAt (given : separator ≠ []) (cs : List α) :
    ∃ part parts, cutAt separator 0 cs = part :: parts ∧ part <+: cs := by
  induction cs using search_induction given with
  | nil => exact ⟨[], [], rfl, List.nil_prefix⟩
  | found rest ih => exact ⟨[], _, cutAt_found given rest, List.nil_prefix⟩
  | next c cs absent ih =>
    obtain ⟨part, parts, shape, begins⟩ := ih
    refine ⟨c :: part, parts, ?_, (List.prefix_cons_inj c).2 begins⟩
    rw [cutAt_next absent, shape]
    rfl

/-- No part has the text in it at which was cut. -/
theorem not_infix_cutAt (given : separator ≠ []) (cs : List α) :
    ∀ part ∈ cutAt separator 0 cs, ¬separator <:+: part := by
  induction cs using search_induction given with
  | nil => simp [cutAt, given]
  | found rest ih =>
    rw [cutAt_found given]
    simpa [given] using ih
  | next c cs absent ih =>
    -- An occurrence at the start of the first part would be one at the start of the text.
    obtain ⟨part, parts, shape, begins⟩ := head_cutAt given cs
    rw [cutAt_next absent, shape, prepend]
    rw [shape] at ih
    simp only [List.forall_mem_cons] at ih ⊢
    refine ⟨fun inside => ?_, ih.2⟩
    rcases List.infix_cons_iff.1 inside with here | later
    · exact absent (here.trans ((List.prefix_cons_inj c).2 begins))
    · exact ih.1 later

/-! ## Finding -/

/-- A text is found where it first begins. -/
theorem indexOf_eq_some_iff {i : Nat} :
    indexOf needle cs = some i ↔
      i ≤ cs.length ∧ needle <+: cs.drop i ∧ ∀ j < i, ¬needle <+: cs.drop j := by
  induction cs generalizing i with
  | nil =>
    cases i with
    | zero => simp [indexOf]
    | succ i => simp [indexOf]
  | cons c cs ih =>
    by_cases here : needle <+: c :: cs
    · rw [indexOf, if_pos (by simpa using here)]
      cases i with
      | zero => simp [here]
      | succ i => simpa using fun _ _ => ⟨0, by simp, here⟩
    · rw [indexOf, if_neg (by simpa using here)]
      cases i with
      | zero => simp [here]
      | succ i =>
        rw [Nat.forall_lt_succ_left]
        simp [ih, here]

theorem contains_iff : contains needle cs = true ↔ needle <:+: cs := by
  unfold contains
  induction cs with
  | nil => by_cases empty : needle = [] <;> simp [indexOf, empty]
  | cons c cs ih =>
    rw [indexOf, List.infix_cons_iff, ← ih]
    by_cases here : needle <+: c :: cs
    · simp [here]
    · rw [if_neg (by simpa using here)]
      simp [here]

end PageBinding.Text
