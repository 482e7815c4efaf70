import PageBinding.Proofs.Reading.Sides
import PageBinding.Proofs.Reading.Scoping

/-!
A side of a binding addresses things in one way. Its kind is told from the tokens alone, before
anything is read; whatever is read from it then, however deeply it is nested, is of that kind, and so
is the assignment that the target becomes. Bound data may be read on every side.
-/
namespace PageBinding

/-! ## Kinds of statements -/

/-- Whether an expression is a path of global data. -/
def Expr.readsGlobal : Expr → Bool
  | get scope _ => scope.global
  | _ => false

namespace Stmt

/-- The kind of the accessor that a setup statement reads. -/
def reads? : Stmt → Option Side
  | declare _ (.attr _ _) => some .attr
  | declare _ (.member _ _) => some .prop
  | _ => none

/-- The kind of the target that an assignment writes to. -/
def writes? : Stmt → Option Side
  | setAttr _ _ _ => some .attr
  | setMember _ _ _ => some .prop
  | setProperty scope _ _ => some (if scope.global then .global else .data)
  | _ => none

def IsLookup : Stmt → Prop
  | lookup _ _ _ => True
  | _ => False

end Stmt

namespace Binding

/-! ## What reading a side adds -/

def Keeps (side : Side) (parts : List Expr) : Prop :=
  ∀ x ∈ parts, x.readsGlobal = true → side = .global

def OfSide (side : Side) (st : Stmt) : Prop :=
  (st.IsLookup ∨ st.reads? = some side) ∧ Keeps side st.parts

variable {s : Setting} {marker : MarkerRule} {side : Side} {a b c : List Stmt} {xs ys : List Expr}

@[simp]
theorem keeps_nil : Keeps side [] := nofun

@[simp]
theorem keeps_cons {x : Expr} :
    Keeps side (x :: xs) ↔ (x.readsGlobal = true → side = .global) ∧ Keeps side xs :=
  List.forall_mem_cons

@[simp]
theorem keeps_append : Keeps side (xs ++ ys) ↔ Keeps side xs ∧ Keeps side ys :=
  List.forall_mem_append

theorem keeps_memberPath {x : Expr} (path : String) (h : Keeps side x.parts) :
    Keeps side (memberPath x path).parts := by
  unfold memberPath
  induction Store.keys path generalizing x with
  | nil => exact h
  | cons key keys ih =>
      apply ih
      simpa [Expr.parts, Expr.readsGlobal] using h

/-- The setup statements `b` are those of `a` and statements of a side after them, which the given
expressions are of as well. -/
def AddsOf (side : Side) (a b : List Stmt) (xs : List Expr) : Prop :=
  ∃ added, b = a ++ added ∧ (∀ st ∈ added, OfSide side st) ∧ Keeps side xs

theorem AddsOf.nothing (h : Keeps side xs) : AddsOf side a a xs :=
  ⟨[], by rw [List.append_nil], nofun, h⟩

theorem AddsOf.trans (h : AddsOf side a b xs) (h' : AddsOf side b c ys) :
    AddsOf side a c (xs ++ ys) := by
  obtain ⟨first, rfl, all, keeps⟩ := h
  obtain ⟨second, rfl, all', keeps'⟩ := h'
  exact ⟨first ++ second, by rw [List.append_assoc], List.forall_mem_append.2 ⟨all, all'⟩,
    keeps_append.2 ⟨keeps, keeps'⟩⟩

theorem AddsOf.imp (h : AddsOf side a b xs) (step : Keeps side xs → Keeps side ys) :
    AddsOf side a b ys := by
  obtain ⟨added, rfl, all, keeps⟩ := h
  exact ⟨added, rfl, all, step keeps⟩

theorem AddsOf.snoc {st : Stmt} (h : AddsOf side a b xs) (last : Keeps side xs → OfSide side st)
    (keeps : Keeps side ys) : AddsOf side a (b ++ [st]) ys := by
  obtain ⟨added, rfl, all, known⟩ := h
  refine ⟨added ++ [st], by rw [List.append_assoc], ?_, keeps⟩
  exact List.forall_mem_append.2 ⟨all, List.forall_mem_singleton.2 (last known)⟩

theorem located_addsOf (side : Side) (a : List Stmt) (locator : Locator) :
    AddsOf side a (located a locator).2 (located a locator).1.parts := by
  cases locator with
  | self => exact .nothing (by simp [located, Expr.parts, Expr.readsGlobal])
  | find selector whole =>
      have start : AddsOf side a a [] := .nothing keeps_nil
      refine start.snoc (fun _ => ⟨.inl trivial, by simp [Stmt.parts]⟩) ?_
      simp [located, Expr.parts, Expr.readsGlobal]

theorem accessed_addsOf {name : String} (isSide : side = markerSide name) (a : List Stmt)
    (found : Accessor) :
    AddsOf side a (accessed side a found).2 (accessed side a found).1.parts := by
  have first := located_addsOf side a found.element
  unfold accessed
  dsimp only
  split
  · rename_i attr
    subst attr
    refine first.snoc (fun keeps => ⟨.inr rfl, ?_⟩) (by simp [Expr.parts, Expr.readsGlobal])
    simpa [Stmt.parts, Expr.parts, Expr.readsGlobal] using keeps
  · rename_i notAttr
    have prop : side = .prop := by
      rw [isSide, markerSide] at notAttr ⊢
      split
      · rfl
      · rename_i other
        rw [if_neg other] at notAttr
        exact absurd rfl notAttr
    subst prop
    refine first.snoc (fun keeps => ⟨.inr ?_, keeps_memberPath _ keeps⟩)
      (by simp [Expr.parts, Expr.readsGlobal])
    obtain ⟨keys, last, shape⟩ := exists_last_key found.name
    rw [memberPath_of_keys _ shape]
    rfl

theorem keeps_of_namedValue {name : String} {x : Expr} (found : namedValue? name = some x) :
    Keeps side x.parts := by
  unfold namedValue? at found
  repeat' split at found
  all_goals cases found
  all_goals simp [Expr.parts, Expr.readsGlobal]

mutual

theorem IsExpr.addsOf {a b : List Stmt} {ts : List Token} {x : Expr} :
    IsExpr marker s a ts x b → AddsOf s.side a b x.parts
  | .plain h => h.addsOf
  | .cond c _ t _ e => (c.addsOf.trans (t.addsOf.trans e.addsOf)).imp fun keeps => by
      simpa [Expr.parts, Expr.readsGlobal] using keeps

theorem IsBinary.addsOf {least : Nat} {a b : List Stmt} {ts : List Token} {x : Expr} :
    IsBinary marker s least a ts x b → AddsOf s.side a b x.parts
  | .operand h => h.addsOf
  | .apply left _ _ right => (left.addsOf.trans right.addsOf).imp fun keeps => by
      simpa [Expr.parts, Expr.readsGlobal] using keeps

theorem IsUnary.addsOf {a b : List Stmt} {ts : List Token} {x : Expr} :
    IsUnary marker s a ts x b → AddsOf s.side a b x.parts
  | .operand h => h.addsOf
  | .apply _ h => h.addsOf.imp fun keeps => by simpa [Expr.parts, Expr.readsGlobal] using keeps

theorem IsOperand.addsOf {f : Follow} {a b : List Stmt} {ts : List Token} {x : Expr} :
    IsOperand marker s f a ts x b → AddsOf s.side a b x.parts
  | .number _ _ => .nothing (by simp [Expr.parts, Expr.readsGlobal])
  | .string _ _ => .nothing (by simp [Expr.parts, Expr.readsGlobal])
  | .paren _ h _ => h.addsOf.imp fun keeps => by simpa [Expr.parts, Expr.readsGlobal] using keeps
  | .named _ found => .nothing (keeps_of_namedValue found)
  | .access _ _ isSide _ => accessed_addsOf isSide _ _
  | .global _ _ isGlobal _ => .nothing (by simp [Expr.parts, isGlobal])
  | .path _ _ => .nothing (by simp [Expr.parts, Expr.readsGlobal, Scope.bound])
  | .method _ _ _ _ h => h.addsOf.imp fun keeps => by
      simpa [Expr.parts, Expr.readsGlobal, Scope.bound] using keeps
  | .member h _ _ => h.addsOf.imp fun keeps => by simpa [Expr.parts, Expr.readsGlobal] using keeps
  | .call h _ _ _ args => (h.addsOf.trans args.addsOf).imp fun keeps => by
      simpa [Expr.parts, Expr.readsGlobal] using keeps
  | .index h _ i _ => (h.addsOf.trans i.addsOf).imp fun keeps => by
      simpa [Expr.parts, Expr.readsGlobal] using keeps

theorem IsArgs.addsOf {a b : List Stmt} {ts : List Token} {xs : List Expr} :
    IsArgs marker s a ts xs b → AddsOf s.side a b (Expr.partsAll xs)
  | .none _ _ => .nothing (by simp [Expr.partsAll])
  | .some _ h => h.addsOf

theorem IsItems.addsOf {a b : List Stmt} {ts : List Token} {xs : List Expr} :
    IsItems marker s a ts xs b → AddsOf s.side a b (Expr.partsAll xs)
  | .last h _ => h.addsOf.imp fun keeps => by simpa [Expr.partsAll] using keeps
  | .more h _ tail => (h.addsOf.trans tail.addsOf).imp fun keeps => by
      simpa [Expr.partsAll] using keeps

end

/-! ## Bindings -/

theorem writes?_setMemberPath (x : Expr) (path : String) (value : Expr) :
    (setMemberPath x path value).writes? = some .prop := by
  unfold setMemberPath
  split <;> rfl

theorem IsTarget.writes {ts : List Token} {template : Stmt} (h : IsTarget s a ts template b) :
    template.writes? = some s.side := by
  cases h with
  | attr side read => rw [side]; rfl
  | prop side read => rw [side, writes?_setMemberPath]
  | global side kind isMarker path => rw [side]; rfl
  | data side path plain notKeyword => rw [side]; rfl

theorem writes?_fill {template assign : Stmt} {value : Expr} (h : template.fill? value = some assign) :
    assign.writes? = template.writes? := by
  cases template <;> simp [Stmt.fill?] at h
  all_goals
    obtain ⟨-, rfl⟩ := h
    rfl

theorem IsTarget.lookups {ts : List Token} {template : Stmt} (h : IsTarget s a ts template b) :
    ∀ st ∈ b, st ∈ a ∨ st.IsLookup := by
  have looked (locator : Locator) : ∀ st ∈ (located a locator).2, st ∈ a ∨ st.IsLookup := by
    cases locator with
    | self => exact fun st mem => .inl mem
    | find selector whole =>
        intro st mem
        rcases List.mem_append.1 mem with old | new
        · exact .inl old
        · rw [List.mem_singleton.1 new]
          exact .inr trivial
  cases h with
  | attr side read => exact looked _
  | prop side read => exact looked _
  | global side kind isMarker path => exact fun st mem => .inl mem
  | data side path plain notKeyword => exact fun st mem => .inl mem

/-- The kinds of the two sides as they are used are those of their texts. -/
theorem split_of_cut {text : String} {a : Assignment} (cut : Assignment.ofText text = .ok a) :
    ∃ target source, split text = .ok (target, source) ∧
      Side.ofTokens a.target = Side.classify target ∧
      Side.ofTokens a.source = Side.classify source := by
  obtain ⟨⟨target, source⟩, parts⟩ : ∃ sides, split text = .ok sides := by
    unfold split
    rw [cut]
    exact ⟨_, rfl⟩
  obtain ⟨a', ts, us, d, e, cut', -, -, first, last⟩ := split_ok parts
  rw [cut] at cut'
  cases cut'
  exact ⟨target, source, parts, first.side.symm, last.side.symm⟩

/-- The value of a binding reads attributes, properties and global data only if that is the kind of the
source side, and the binding assigns to what the kind of the target side says. All setup statements of
the target are lookups; those of the value are lookups and readings. -/
theorem build_uses_one_kind {global context : Int} {text : String} {p : Program}
    (h : (build global context text).result = .ok p) :
    ∃ target source template first value later assign,
      split text = .ok (target, source) ∧
      ReadAs global context text template first value p.setup ∧ p.setup = first ++ later ∧
      p.assign = some assign ∧ template.fill? value = some assign ∧
      (∀ st ∈ first, st.IsLookup) ∧
      (∀ st ∈ later, st.IsLookup ∨ st.reads? = some (Side.classify source)) ∧
      (∀ x ∈ value.parts ++ later.flatMap Stmt.parts,
        x.readsGlobal = true → Side.classify source = .global) ∧
      assign.writes? = some (Side.classify target) := by
  obtain ⟨template, first, value, read, filled, isSome⟩ := build_ok h
  obtain ⟨assign, assigned⟩ := Option.isSome_iff_exists.1 isSome
  rw [assigned] at filled
  have reading := read
  obtain ⟨cut, readTarget, readSource⟩ := read
  obtain ⟨target, source, parts, kind, kind'⟩ := split_of_cut cut
  obtain ⟨_, _, isTarget, -⟩ := target_sound readTarget
  obtain ⟨_, _, isValue, -⟩ := (sound _ _).expr (source_ok.1 readSource).1
  obtain ⟨later, shape, all, keeps⟩ := isValue.addsOf
  have lookups : ∀ st ∈ first, st.IsLookup :=
    fun st mem => (isTarget.lookups st mem).resolve_left List.not_mem_nil
  refine ⟨target, source, template, first, value, later, assign, parts, reading, shape, assigned,
    filled.symm, lookups, ?_, ?_, ?_⟩
  · rw [← kind']
    exact fun st mem => (all st mem).1
  · intro x mem
    rw [← kind']
    rcases List.mem_append.1 mem with inside | added
    · exact keeps x inside
    · obtain ⟨st, mem, inside⟩ := List.mem_flatMap.1 added
      exact (all st mem).2 x inside
  · rw [writes?_fill filled.symm, isTarget.writes, ← kind]
    rfl

theorem sampleProgram_one_kind :
    (build 0 1 sampleBinding).result = .ok sampleProgram ∧
      ∃ target source template first value later assign,
        split sampleBinding = .ok (target, source) ∧
        ReadAs 0 1 sampleBinding template first value sampleProgram.setup ∧
        sampleProgram.setup = first ++ later ∧ sampleProgram.assign = some assign ∧
        (∀ st ∈ later, st.IsLookup ∨ st.reads? = some (Side.classify source)) ∧
        assign.writes? = some (Side.classify target) := by
  obtain ⟨target, source, template, first, value, later, assign, parts, read, shape, assigned, -, -,
    kept, -, writes⟩ := build_uses_one_kind build_sampleBinding
  exact ⟨build_sampleBinding, target, source, template, first, value, later, assign, parts, read, shape,
    assigned, kept, writes⟩

end Binding

end PageBinding
