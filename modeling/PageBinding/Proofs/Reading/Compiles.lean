import PageBinding.Proofs.Reading.Build
import PageBinding.Proofs.Token.Composition

/-!
When a binding compiles: exactly when its text can be cut at an equals sign and the grammar derives a
target from the tokens before it and a value from those after it. The program is then made of what
the two derivations give.
-/
namespace PageBinding

/-! ## Cutting -/

namespace Assignment

theorem divide_eq_some {tokens target source : List Token} {sign : Token} :
    divide tokens = some (target, sign, source) ↔
      tokens = target ++ sign :: source ∧ sign.kind = .assign ∧ ∀ t ∈ target, t.kind ≠ .assign := by
  induction tokens generalizing target with
  | nil => simp [divide]
  | cons t rest ih =>
    unfold divide
    by_cases isSign : t.kind = .assign
    · rw [if_pos isSign, Option.some.injEq, Prod.mk.injEq, Prod.mk.injEq]
      constructor
      · rintro ⟨rfl, rfl, rfl⟩
        exact ⟨rfl, isSign, nofun⟩
      · rintro ⟨shape, -, others⟩
        cases target with
        | nil =>
          cases shape
          exact ⟨rfl, rfl, rfl⟩
        | cons u target =>
          cases shape
          exact absurd isSign (others t List.mem_cons_self)
    · rw [if_neg isSign, Option.map_eq_some_iff]
      constructor
      · rintro ⟨⟨target', sign', source'⟩, found, same⟩
        cases same
        obtain ⟨rfl, isAssign, others⟩ := ih.1 found
        exact ⟨rfl, isAssign, List.forall_mem_cons.2 ⟨isSign, others⟩⟩
      · rintro ⟨shape, isAssign, others⟩
        cases target with
        | nil =>
          cases shape
          exact absurd isAssign isSign
        | cons u target =>
          cases shape
          rw [List.forall_mem_cons] at others
          exact ⟨_, ih.2 ⟨rfl, isAssign, others.2⟩, rfl⟩

/-- The tokens of a text are those of a target, the first equals sign, and those of a value. -/
structure Cuts (text : RawText) (a : Assignment) : Prop where
  scanned : ∃ sign : Token, Token.scanRaw text = a.target ++ sign :: (a.source ++ [.eofAt a.stop]) ∧
    sign.kind = .assign ∧ sign.offset = a.sign
  first : ∀ t ∈ a.target, t.kind ≠ .assign
  target : a.target ≠ []
  source : a.source ≠ []

theorem ofText_ok {text : RawText} {a : Assignment} : ofText text = .ok a ↔ Cuts text a := by
  obtain ⟨before, last, scanned, -, ends⟩ := Token.scanRaw_ends text
  unfold ofText ofTokens
  simp only [scanned, List.getLast?_concat, Option.getD_some, List.dropLast_concat]
  rcases ends with isError | ⟨stop, rfl⟩
  · rw [if_pos isError]
    simp only [reduceCtorEq, false_iff]
    rintro ⟨⟨sign, shape, -⟩, -⟩
    rw [scanned, ← List.cons_append, ← List.append_assoc] at shape
    have same := (List.append_inj' shape rfl).2
    cases same
    cases isError
  · rw [if_neg (by simp [Token.eofAt])]
    cases divided : divide before with
    | none =>
      simp only [reduceCtorEq, false_iff]
      rintro ⟨⟨sign, shape, isSign, -⟩, others, -⟩
      rw [scanned, ← List.cons_append, ← List.append_assoc] at shape
      obtain ⟨rfl, -⟩ := List.append_inj' shape rfl
      rw [divide_eq_some.2 ⟨rfl, isSign, others⟩] at divided
      cases divided
    | some parts =>
      obtain ⟨target, sign, source⟩ := parts
      obtain ⟨rfl, isSign, others⟩ := divide_eq_some.1 divided
      simp only [List.isEmpty_iff]
      constructor
      · intro h
        split at h
        · rename_i made
          cases h
          split at made
          · cases made
          · rename_i someTarget
            split at made
            · cases made
            · rename_i someSource
              cases made
              exact ⟨⟨sign, by simp [scanned, Token.eofAt], isSign, rfl⟩, others, someTarget, someSource⟩
        · cases h
      · rintro ⟨⟨sign', shape, isSign', place⟩, others', someTarget, someSource⟩
        obtain ⟨target', _, source', stop'⟩ := a
        dsimp only at *
        rw [scanned, ← List.cons_append, ← List.append_assoc] at shape
        obtain ⟨same, ended⟩ := List.append_inj' shape rfl
        have divided' := divide_eq_some.2 ⟨same, isSign', others'⟩
        rw [divided] at divided'
        cases divided'
        cases ended
        rw [if_neg someTarget, if_neg someSource, place]
        rfl

/-- The tokens of the sides of a binding are neither ends nor errors. -/
theorem Cuts.proper {text : RawText} {a : Assignment} (h : Cuts text a) :
    (∀ t ∈ a.target, t.Proper) ∧ ∀ t ∈ a.source, t.Proper := by
  obtain ⟨sign, scanned, -⟩ := h.scanned
  rw [← List.cons_append, ← List.append_assoc] at scanned
  have proper := (Token.scanRaw_proper scanned).1
  exact ⟨fun t mem => proper t (by simp [mem]), fun t mem => proper t (by simp [mem])⟩

end Assignment

namespace Binding

variable {s : Setting}

/-! ## Targets -/

/-- An accessor is read without what follows it. -/
theorem accessor_alone {text : RawText} {fn : String} {stop : Nat} {ts rest : List Token} {found : Accessor}
    (h : accessor text fn stop (ts ++ rest) = .ok (found, rest)) :
    accessor text fn stop ts = .ok (found, []) := by
  cases whole : ts ++ rest with
  | nil =>
    rw [whole] at h
    cases h
  | cons t toks =>
    rw [whole] at h
    obtain ⟨us, rfl, again⟩ := accessor_sound h
    rw [← List.cons_append] at whole
    rw [List.append_cancel_right whole]
    simpa using again []

theorem target_derived {p q : Progress} {template : Stmt} (whole : ∀ t ∈ p.rest, t.kind ≠ .eof)
    (h : target s p = .ok template q) : IsTarget s p.setup p.rest template q.setup := by
  obtain ⟨ts, shape, derived, ended⟩ := target_sound h
  have done : q.rest = [] := by
    refine nil_of_eof (fun t mem => whole t ?_) ended
    rw [shape]
    exact List.mem_append_right ts mem
  rw [shape, done, List.append_nil]
  exact derived

theorem target_complete {a b : List Stmt} {ts : List Token} {template : Stmt}
    (h : IsTarget s a ts template b) (w : List Nat) :
    ∃ w', target s ⟨ts, a, w⟩ = .ok template ⟨[], b, w'⟩ := by
  unfold target
  cases h with
  | attr side read =>
    refine ⟨w, ?_⟩
    simp only [side, bind_ok, reading_ok, element_ok, expectEnd_ok, pure_ok]
    exact ⟨_, _, ⟨_, accessor_alone read, rfl⟩, _, _, ⟨rfl, rfl⟩, _, _, ⟨rfl, rfl⟩, (), _,
      ⟨rfl, rfl⟩, rfl, rfl⟩
  | prop side read =>
    refine ⟨w, ?_⟩
    simp only [side, bind_ok, reading_ok, element_ok, expectEnd_ok, pure_ok]
    exact ⟨_, _, ⟨_, accessor_alone read, rfl⟩, _, _, ⟨rfl, rfl⟩, _, _, ⟨rfl, rfl⟩, (), _,
      ⟨rfl, rfl⟩, rfl, rfl⟩
  | @global t ts path f side kind isMarker spells =>
    have fits : Fits s.stop f [] := by cases f <;> simp [Fits]
    have read := globalPath_complete spells fits (by simp) (by simp)
    rw [List.append_nil] at read
    refine ⟨if path = "" then w ++ [t.offset] else w, ?_⟩
    simp only [side]
    rw [take_bind, nextToken_cons, if_neg (by simp [kind, isMarker])]
    simp only [bind_ok, readGlobalPath_ok, expectEnd_ok, pure_ok]
    exact ⟨_, _, ⟨_, read, rfl⟩, _, _, ⟨rfl, rfl⟩, (), _, ⟨rfl, rfl⟩, rfl, rfl⟩
  | @data t ts names side isPath plain notKeyword =>
    have kind : t.kind = .identifier := by
      obtain ⟨u, us, -, same, -, isName⟩ := isPath.head
      cases same
      exact isName.1
    have read : path s.stop ((t :: ts) ++ []) = _ := path_complete isPath (by simp)
    rw [List.append_nil] at read
    refine ⟨w, ?_⟩
    simp only [side]
    rw [peek_bind, nextToken_cons, if_neg (by simp only [kind, plain, notKeyword]; decide)]
    simp only [bind_ok, reading_ok, expectEnd_ok, pure_ok]
    exact ⟨_, _, ⟨_, read, rfl⟩, _, _, ⟨rfl, rfl⟩, (), _, ⟨rfl, rfl⟩, rfl, rfl⟩

/-! ## Bindings -/

/-- A binding compiles to a program exactly when its sides derive the parts of the program. -/
theorem build_iff {global context : Int} {text : RawText} {p : Program} :
    (build global context text).result = .ok p ↔
      ∃ a template first value, Assignment.ofText text = .ok a ∧
        IsTarget (targetSetting text global context a) [] a.target template first ∧
        IsExpr OptionalPath (sourceSetting text global context a) first a.source value p.setup ∧
        p.assign = template.fill? value ∧ p.assign.isSome = true := by
  constructor
  · intro h
    obtain ⟨template, first, value, ⟨cut, readTarget, readSource⟩, filled, isSome⟩ := build_ok h
    have proper := (Assignment.ofText_ok.1 cut).proper
    exact ⟨_, template, first, value, cut,
      target_derived (fun t mem => (proper.1 t mem).1) readTarget,
      source_sound (fun t mem => (proper.2 t mem).1) readSource, filled, isSome⟩
  · rintro ⟨a, template, first, value, cut, isTarget, isValue, filled, isSome⟩
    obtain ⟨w, readTarget⟩ := target_complete isTarget []
    obtain ⟨w', readSource⟩ := source_complete isValue w
    obtain ⟨assign, isAssign⟩ := Option.isSome_iff_exists.1 isSome
    have ran : program text global context a ⟨a.target, [], []⟩ = .ok p ⟨[], p.setup, w'⟩ := by
      refine (bind_of_ok readTarget _).trans ?_
      rw [modify_bind]
      refine (bind_of_ok readSource _).trans ?_
      simp only [← filled, isAssign]
      rw [get_bind, pure_ok, ← isAssign]
      exact ⟨rfl, rfl⟩
    unfold build
    rw [cut]
    unfold EStateM.run
    simp only [ran]

end Binding

end PageBinding
