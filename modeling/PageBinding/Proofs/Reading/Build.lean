import PageBinding.Proofs.Reading.Value

/-!
What compiling a binding comes to when it succeeds: the target is read first, then the value with
the setup statements of the target before it, and the value is put into the target.
-/
namespace PageBinding.Binding

variable {s : Setting}

/-! ## Targets -/

/-- The grammar of targets: `IsTarget s a ts st b` says that the tokens `ts` spell the assignment
`st`, still without its value. It leads from the setup statements `a` to `b`. -/
inductive IsTarget (s : Setting) : List Stmt → List Token → Stmt → List Stmt → Prop
  | attr {a : List Stmt} {ts rest : List Token} {found : Accessor} :
      s.side = .attr → accessor s.text "attr" s.stop (ts ++ rest) = .ok (found, rest) →
      IsTarget s a ts (.setAttr (located a found.element).1 found.name .placeholder)
        (located a found.element).2
  | prop {a : List Stmt} {ts rest : List Token} {found : Accessor} :
      s.side = .prop → accessor s.text "prop" s.stop (ts ++ rest) = .ok (found, rest) →
      IsTarget s a ts (setMemberPath (located a found.element).1 found.name .placeholder)
        (located a found.element).2
  | global {a : List Stmt} {t : Token} {ts : List Token} {path : String} {f : Follow} :
      s.side = .global → t.kind = .identifier → Side.isGlobalMarker t.text = true →
      OptionalPath ts path f →
      IsTarget s a (t :: ts) (.setProperty (.fixed s.global) path .placeholder) a
  | data {a : List Stmt} {t : Token} {ts : List Token} {names : List String} :
      s.side = .data → IsPath (t :: ts) names → Text.startsWith t.text "$" = false →
      keywords.contains t.text = false →
      IsTarget s a (t :: ts) (.setProperty (.bound s.context) (joinPath names) .placeholder) a

theorem accessor_prefix {text : RawText} {fn : String} {stop : Nat} {toks rest : List Token} {a : Accessor}
    (h : accessor text fn stop toks = .ok (a, rest)) : ∃ ts, toks = ts ++ rest := by
  cases toks with
  | nil => cases h
  | cons t toks =>
    obtain ⟨ts, rfl, -⟩ := accessor_sound h
    exact ⟨t :: ts, rfl⟩

theorem target_sound {p q : Progress} {st : Stmt} (h : target s p = .ok st q) :
    ∃ ts, p.rest = ts ++ q.rest ∧ IsTarget s p.setup ts st q.setup ∧
      (nextToken s.stop q.rest).kind = .eof := by
  unfold target at h
  cases side : s.side with
  | attr =>
    simp only [side, bind_ok, reading_ok, element_ok, expectEnd_ok, pure_ok] at h
    obtain ⟨found, _, ⟨rest, read, rfl⟩, x, _, ⟨rfl, rfl⟩, _, _, ⟨rfl, rfl⟩, _, _,
      ⟨ended, rfl⟩, rfl, rfl⟩ := h
    obtain ⟨ts, shape⟩ := accessor_prefix read
    rw [shape] at read
    exact ⟨ts, shape, .attr side read, ended⟩
  | prop =>
    simp only [side, bind_ok, reading_ok, element_ok, expectEnd_ok, pure_ok] at h
    obtain ⟨found, _, ⟨rest, read, rfl⟩, x, _, ⟨rfl, rfl⟩, _, _, ⟨rfl, rfl⟩, _, _,
      ⟨ended, rfl⟩, rfl, rfl⟩ := h
    obtain ⟨ts, shape⟩ := accessor_prefix read
    rw [shape] at read
    exact ⟨ts, shape, .prop side read, ended⟩
  | global =>
    simp only [side] at h
    rw [take_bind] at h
    split at h
    · rw [throw_bind] at h
      cases h
    · rename_i isMarker
      rw [Bool.not_eq_true, Bool.not_eq_false', Bool.and_eq_true, decide_eq_true_eq] at isMarker
      simp only [bind_ok, readGlobalPath_ok, expectEnd_ok, pure_ok] at h
      obtain ⟨path, _, ⟨rest, read, rfl⟩, _, _, ⟨rfl, rfl⟩, _, _, ⟨ended, rfl⟩, rfl, rfl⟩ := h
      obtain ⟨t, rest', shape, kind⟩ := rest_of_nextToken isMarker.1 (by decide)
      rw [shape, nextToken_cons] at isMarker
      obtain ⟨ts, f, shape', derived, -⟩ := globalPath_sound read
      rw [shape, List.drop_succ_cons, List.drop_zero] at shape'
      refine ⟨t :: ts, ?_, .global side kind isMarker.2 derived, ended⟩
      rw [shape, shape']
      rfl
  | data =>
    simp only [side] at h
    rw [peek_bind] at h
    split at h
    · rw [throw_bind] at h
      cases h
    · rename_i isName
      simp only [Bool.or_eq_true, decide_eq_true_eq, not_or, Bool.not_eq_true] at isName
      simp only [bind_ok, reading_ok, expectEnd_ok, pure_ok] at h
      obtain ⟨names, _, ⟨rest, read, rfl⟩, _, _, ⟨rfl, rfl⟩, _, _, ⟨ended, rfl⟩, rfl, rfl⟩ := h
      obtain ⟨ts, shape, derived, -⟩ := path_sound read
      obtain ⟨t, us, -, rfl, -, -⟩ := derived.head
      rw [shape, List.cons_append, nextToken_cons] at isName
      exact ⟨t :: us, shape, .data side derived isName.1.2 isName.2, ended⟩

/-! ## Bindings -/

/-- What the target of a binding is read with. -/
def targetSetting (text : RawText) (global context : Int) (a : Assignment) : Setting :=
  ⟨text, context, global, Side.ofTokens a.target, a.sign⟩

/-- What the value of a binding is read with. -/
def sourceSetting (text : RawText) (global context : Int) (a : Assignment) : Setting :=
  ⟨text, context, global, Side.ofTokens a.source, a.stop⟩

/-- The target of a binding is read as `template` with the setup statements `first`, and after that
the value as `value`. The setup statements are then `setup`. -/
inductive ReadAs (global context : Int) (text : RawText) (template : Stmt) (first : List Stmt)
    (value : Expr) (setup : List Stmt) : Prop
  | intro {a : Assignment} {rest rest' : List Token} {w w' : List Nat} :
      Assignment.ofText text = .ok a →
      target (targetSetting text global context a) ⟨a.target, [], []⟩ =
        .ok template ⟨rest, first, w⟩ →
      source (sourceSetting text global context a) ⟨a.source, first, w⟩ =
        .ok value ⟨rest', setup, w'⟩ →
      ReadAs global context text template first value setup

/-- A binding compiles to the setup statements of both sides, and to the target with the value put
into it. -/
theorem build_ok {global context : Int} {text : RawText} {p : Program}
    (h : (build global context text).result = .ok p) :
    ∃ template first value, ReadAs global context text template first value p.setup ∧
      p.assign = template.fill? value ∧ p.assign.isSome = true := by
  unfold build at h
  split at h
  · cases h
  · rename_i a cut
    split at h
    · rename_i p' progress ran
      cases h
      unfold EStateM.run program at ran
      rw [bind_ok] at ran
      obtain ⟨template, r, first, ran⟩ := ran
      rw [modify_bind, bind_ok] at ran
      obtain ⟨value, q, second, ran⟩ := ran
      refine ⟨template, r.setup, value, ?_⟩
      cases filled : template.fill? value with
      | none =>
        simp only [filled] at ran
        rw [throw_ok] at ran
        exact ran.elim
      | some assign =>
        simp only [filled] at ran
        rw [get_bind, pure_ok] at ran
        obtain ⟨rfl, rfl⟩ := ran
        exact ⟨.intro cut first second, rfl, rfl⟩
    · cases h

end PageBinding.Binding
