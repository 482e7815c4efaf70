import PageBinding.Binding.Build
import PageBinding.Proofs.Outcome

/-!
What each step of reading a side does when it succeeds. Later proofs take readers apart with these
statements and never unfold a step.
-/
namespace PageBinding.Binding

variable {α β : Type} {s : Setting} {p q : Progress}

/-! ## Steps in sequence -/

theorem peek_bind (f : Token → Parse β) : (peek s >>= f) p = f (nextToken s.stop p.rest) p := rfl

theorem advance_bind (f : Unit → Parse β) :
    (advance >>= f) p = f () { p with rest := p.rest.drop 1 } := rfl

theorem take_bind (f : Token → Parse β) :
    (take s >>= f) p = f (nextToken s.stop p.rest) { p with rest := p.rest.drop 1 } := rfl

/-! ## Tokens -/

@[simp]
theorem nextToken_cons (stop : Nat) (t : Token) (rest : List Token) :
    nextToken stop (t :: rest) = t := rfl

@[simp]
theorem nextToken_nil (stop : Nat) : nextToken stop [] = .eofAt stop := rfl

@[simp]
theorem eofAt_kind (stop : Nat) : (Token.eofAt stop).kind = .eof := rfl

/-- In a text of characters, a string means what its characters do. -/
theorem unquoted_of_unquote {text u : String} {t : Token} (h : Literal.unquote t.text = .ok u) :
    unquoted text t = .ok (.chars u) := by
  have raw : Literal.unquoteRaw (t.rawIn text) = .ok (.chars u) := by
    show (Literal.unquote t.text).map RawText.chars = .ok (.chars u)
    rw [h]
    rfl
  rw [unquoted, raw]

/-- A token of any kind but the end is the first of those that are left. -/
theorem rest_of_nextToken {stop : Nat} {rest : List Token} {kind : Token.Kind}
    (h : (nextToken stop rest).kind = kind) (notEnd : kind ≠ .eof) :
    ∃ t rest', rest = t :: rest' ∧ t.kind = kind := by
  cases rest with
  | nil => exact absurd h.symm notEnd
  | cons t rest' => exact ⟨t, rest', rfl, h⟩

theorem expect_ok {kind : Token.Kind} {what : String} {t : Token} (notEnd : kind ≠ .eof) :
    expect s kind what p = .ok t q ↔
      t.kind = kind ∧ ∃ rest, p.rest = t :: rest ∧ q = { p with rest } := by
  unfold expect
  rw [take_bind]
  by_cases same : (nextToken s.stop p.rest).kind = kind
  · rw [if_pos same, pure_ok]
    obtain ⟨u, rest, shape, kept⟩ := rest_of_nextToken same notEnd
    rw [shape, nextToken_cons, List.drop_succ_cons, List.drop_zero]
    constructor
    · rintro ⟨rfl, rfl⟩
      exact ⟨kept, rest, rfl, rfl⟩
    · rintro ⟨-, rest', again, rfl⟩
      cases again
      exact ⟨rfl, rfl⟩
  · rw [if_neg same, throw_ok]
    constructor
    · exact False.elim
    · rintro ⟨kept, rest, shape, rfl⟩
      rw [shape, nextToken_cons] at same
      exact same kept

theorem expect_cons {kind : Token.Kind} {t : Token} {rest : List Token} {a : List Stmt}
    {w : List Nat} (h : t.kind = kind) (what : String) :
    expect s kind what ⟨t :: rest, a, w⟩ = .ok t ⟨rest, a, w⟩ := by
  unfold expect
  rw [take_bind]
  exact congrFun (if_pos h) _

theorem expectEnd_ok {what : String} {u : Unit} :
    expectEnd s what p = .ok u q ↔ (nextToken s.stop p.rest).kind = .eof ∧ p = q := by
  unfold expectEnd
  rw [peek_bind]
  by_cases atEnd : (nextToken s.stop p.rest).kind = .eof
  · rw [if_pos atEnd, pure_ok]
    exact ⟨fun h => ⟨atEnd, h.2⟩, fun h => ⟨rfl, h.2⟩⟩
  · rw [if_neg atEnd, throw_ok]
    exact ⟨False.elim, fun h => atEnd h.1⟩

theorem reading_ok {read : TokenReader α} {a : α} :
    reading read p = .ok a q ↔ ∃ rest, read p.rest = .ok (a, rest) ∧ q = { p with rest } := by
  unfold reading
  rw [get_bind]
  cases result : read p.rest with
  | error fault => simp [throw_ok]
  | ok found =>
    obtain ⟨b, rest⟩ := found
    show (pure b : Parse α) { p with rest } = _ ↔ _
    rw [pure_ok]
    constructor
    · rintro ⟨rfl, rfl⟩
      exact ⟨rest, rfl, rfl⟩
    · rintro ⟨rest', same, rfl⟩
      cases same
      exact ⟨rfl, rfl⟩

/-! ## Setup -/

theorem declare_ok {stem : String} {make : String → Stmt} {x : Expr} :
    declare stem make p = .ok x q ↔
      x = .var (stem ++ toString p.setup.length) ∧
        q = { p with setup := p.setup ++ [make (stem ++ toString p.setup.length)] } := by
  show EStateM.Result.ok _ _ = EStateM.Result.ok x q ↔ _
  rw [EStateM.Result.ok.injEq, eq_comm, eq_comm (a := q)]

/-- The element that an accessor addresses, and the setup statements with its lookup. -/
def located (setup : List Stmt) : Locator → Expr × List Stmt
  | .self => (.element, setup)
  | .find selector whole =>
    let name := "el" ++ toString setup.length
    (.var name, setup ++ [.lookup name selector whole])

theorem element_ok {locator : Locator} {x : Expr} :
    element locator p = .ok x q ↔
      x = (located p.setup locator).1 ∧ q = { p with setup := (located p.setup locator).2 } := by
  cases locator with
  | self =>
    show (pure Expr.element : Parse Expr) p = _ ↔ _
    rw [pure_ok, eq_comm, eq_comm (a := p)]
    rfl
  | find selector whole =>
    unfold element
    rw [declare_ok]
    rfl

/-- The name that reads an accessor, and the setup statements with that reading. -/
def accessed (side : Side) (setup : List Stmt) (a : Accessor) : Expr × List Stmt :=
  let at_ := located setup a.element
  let count := toString at_.2.length
  if side = .attr then
    (.var ("attr" ++ count), at_.2 ++ [.declare ("attr" ++ count) (.attr at_.1 a.name)])
  else (.var ("prop" ++ count), at_.2 ++ [.declare ("prop" ++ count) (memberPath at_.1 a.name)])

/-- The side that a name before a parenthesis belongs to. -/
def markerSide (name : String) : Side :=
  if name = "prop" then .prop else .attr

theorem readAccessor_ok {marker : Token} {x : Expr} :
    readAccessor s marker p = .ok x q ↔
      s.side = markerSide marker.text ∧ ∃ a rest,
        accessor s.text marker.text s.stop p.rest = .ok (a, rest) ∧
        x = (accessed s.side p.setup a).1 ∧
        q = ⟨rest, (accessed s.side p.setup a).2, p.warnings⟩ := by
  have side : (if marker.text = "prop" then Side.prop else Side.attr) = markerSide marker.text := rfl
  simp only [readAccessor, side]
  by_cases same : s.side = markerSide marker.text
  · rw [if_neg (fun other => other same), ← same]
    simp only [bind_ok, reading_ok, element_ok, accessed, true_and]
    constructor
    · rintro ⟨a, r, ⟨rest, read, rfl⟩, y, r', ⟨rfl, rfl⟩, last⟩
      refine ⟨a, rest, read, ?_⟩
      split at last
      · rename_i attr
        rw [declare_ok] at last
        simpa only [if_pos attr] using last
      · rename_i prop
        rw [declare_ok] at last
        simpa only [if_neg prop] using last
    · rintro ⟨a, rest, read, rfl, rfl⟩
      refine ⟨a, _, ⟨rest, read, rfl⟩, _, _, ⟨rfl, rfl⟩, ?_⟩
      split
      · exact declare_ok.2 ⟨rfl, rfl⟩
      · exact declare_ok.2 ⟨rfl, rfl⟩
  · rw [if_pos same, throw_bind]
    simp [same]

theorem readGlobalPath_ok {marker : Token} {path : String} :
    readGlobalPath s marker p = .ok path q ↔ ∃ rest,
      globalPath s.stop p.rest = .ok (path, rest) ∧
      q = ⟨rest, p.setup, if path = "" then p.warnings ++ [marker.offset] else p.warnings⟩ := by
  simp only [readGlobalPath, bind_ok, reading_ok]
  constructor
  · rintro ⟨found, r, ⟨rest, read, rfl⟩, last⟩
    refine ⟨rest, ?_⟩
    split at last
    · rename_i missing
      rw [modify_bind, pure_ok] at last
      obtain ⟨rfl, rfl⟩ := last
      rw [if_pos missing]
      exact ⟨read, rfl⟩
    · rename_i present
      rw [pure_ok] at last
      obtain ⟨rfl, rfl⟩ := last
      rw [if_neg present]
      exact ⟨read, rfl⟩
  · rintro ⟨rest, read, rfl⟩
    refine ⟨path, _, ⟨rest, read, rfl⟩, ?_⟩
    split
    · rw [modify_bind, pure_ok]
      exact ⟨rfl, rfl⟩
    · rw [pure_ok]
      exact ⟨rfl, rfl⟩

end PageBinding.Binding
