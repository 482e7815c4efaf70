import PageBinding.Proofs.Reading.Build
import PageBinding.Proofs.Text.Cut

/-!
Compiled programs are closed: each setup statement has the name that its number gives it and uses
only names given before it, and the assignment uses only names of setup statements.

Reading a part of a binding only adds statements after those that are there, and what it returns
uses only names of the statements that it added.
-/
namespace PageBinding

/-! ## Names in programs -/

namespace Expr

mutual

/-- An expression and all expressions inside it. -/
def parts : Expr → List Expr
  | attr x name => attr x name :: parts x
  | member x name => member x name :: parts x
  | index x i => index x i :: (parts x ++ parts i)
  | call x method args => call x method args :: (parts x ++ partsAll args)
  | unary op x => unary op x :: parts x
  | binary op l r => binary op l r :: (parts l ++ parts r)
  | cond c t e => cond c t e :: (parts c ++ (parts t ++ parts e))
  | paren x => paren x :: parts x
  | x => [x]

/-- Expressions and all expressions inside them. -/
def partsAll : List Expr → List Expr
  | [] => []
  | x :: xs => parts x ++ partsAll xs

end

/-- Expressions that use only given names, and among which there is no placeholder. -/
def Uses (names : List String) (parts : List Expr) : Prop :=
  (∀ name, var name ∈ parts → name ∈ names) ∧ placeholder ∉ parts

variable {names more : List String} {xs ys : List Expr}

@[simp]
theorem uses_nil : Uses names [] := ⟨by simp, by simp⟩

@[simp]
theorem uses_append : Uses names (xs ++ ys) ↔ Uses names xs ∧ Uses names ys := by
  simp only [Uses, List.mem_append, not_or]
  constructor
  · rintro ⟨known, free⟩
    exact ⟨⟨fun n mem => known n (.inl mem), free.1⟩, ⟨fun n mem => known n (.inr mem), free.2⟩⟩
  · rintro ⟨⟨known, free⟩, ⟨known', free'⟩⟩
    exact ⟨fun n mem => mem.elim (known n) (known' n), free, free'⟩

@[simp]
theorem uses_cons {x : Expr} :
    Uses names (x :: xs) ↔ (∀ name, x = var name → name ∈ names) ∧ x ≠ placeholder ∧
      Uses names xs := by
  simp only [Uses, List.mem_cons, not_or]
  constructor
  · rintro ⟨known, free, free'⟩
    exact ⟨fun n same => known n (.inl same.symm), fun same => free same.symm,
      fun n mem => known n (.inr mem), free'⟩
  · rintro ⟨here, notHere, known, free⟩
    refine ⟨fun n mem => ?_, fun same => notHere same.symm, free⟩
    exact mem.elim (fun same => here n same.symm) (known n)

theorem Uses.mono (h : Uses names xs) (sub : ∀ n ∈ names, n ∈ more) : Uses more xs :=
  ⟨fun n mem => sub n (h.1 n mem), h.2⟩

/-- The names that the members of a path use are those of what they are members of. -/
theorem uses_memberPath {x : Expr} (path : String) (h : Uses names x.parts) :
    Uses names (Binding.memberPath x path).parts := by
  unfold Binding.memberPath
  induction Store.keys path generalizing x with
  | nil => exact h
  | cons key keys ih =>
      apply ih
      simpa [parts] using h

end Expr

namespace Stmt

/-- The name that a setup statement gives. -/
def name? : Stmt → Option String
  | lookup name _ _ => some name
  | declare name _ => some name
  | _ => none

/-- All expressions in a statement. -/
def parts : Stmt → List Expr
  | lookup _ _ _ => []
  | declare _ value => value.parts
  | setProperty _ _ value => value.parts
  | setAttr x _ value => x.parts ++ value.parts
  | setMember x _ value => x.parts ++ value.parts

/-- A setup statement whose name ends in its number. -/
def Numbered (number : Nat) : Stmt → Prop
  | lookup name _ _ => name = "el" ++ toString number
  | declare name _ => name = "attr" ++ toString number ∨ name = "prop" ++ toString number
  | _ => False

end Stmt

/-- The names that setup statements give. -/
def namesOf (setup : List Stmt) : List String :=
  setup.filterMap Stmt.name?

@[simp]
theorem namesOf_nil : namesOf [] = [] := rfl

@[simp]
theorem namesOf_append (a b : List Stmt) : namesOf (a ++ b) = namesOf a ++ namesOf b :=
  List.filterMap_append ..

/-- Setup statements numbered from `start`, each of which uses only names given before it. -/
inductive Scoped (start : Nat) : List Stmt → Prop
  | nil : Scoped start []
  | snoc {setup : List Stmt} {st : Stmt} :
      Scoped start setup → st.Numbered (start + setup.length) →
      Expr.Uses (namesOf setup) st.parts → Scoped start (setup ++ [st])

theorem Scoped.append {start : Nat} {a b : List Stmt} (h : Scoped start a)
    (h' : Scoped (start + a.length) b) : Scoped start (a ++ b) := by
  induction h' with
  | nil => rwa [List.append_nil]
  | snoc earlier numbered uses ih =>
      rw [← List.append_assoc]
      refine .snoc ih ?_ ?_
      · rwa [List.length_append, ← Nat.add_assoc]
      · rw [namesOf_append]
        exact uses.mono fun n mem => List.mem_append_right _ mem

/-- What a statement of a scoped list is, by its number. -/
theorem Scoped.get {start : Nat} {setup : List Stmt} (h : Scoped start setup) {i : Nat} {st : Stmt}
    (found : setup[i]? = some st) :
    st.Numbered (start + i) ∧ Expr.Uses (namesOf (setup.take i)) st.parts := by
  induction h with
  | nil => simp at found
  | @snoc before last earlier numbered uses ih =>
      by_cases inside : i < before.length
      · rw [List.getElem?_append_left inside] at found
        rw [List.take_append_of_le_length (Nat.le_of_lt inside)]
        exact ih found
      · have bound := (List.getElem?_eq_some_iff.1 found).1
        rw [List.length_append, List.length_singleton] at bound
        obtain rfl : i = before.length := by omega
        rw [List.getElem?_concat_length] at found
        cases found
        rw [List.take_left]
        exact ⟨numbered, uses⟩

/-! ## Names are distinct -/

/-- The name of a numbered statement is one of three words and the number. -/
theorem Stmt.Numbered.name {number : Nat} {st : Stmt} (h : st.Numbered number) :
    ∃ stem, stem.toList.all (fun c => !c.isDigit) = true ∧
      st.name? = some (stem ++ toString number) := by
  cases st with
  | lookup name selector whole => exact ⟨"el", by decide, congrArg some h⟩
  | declare name value =>
      obtain rfl | rfl := h
      · exact ⟨"attr", by decide, rfl⟩
      · exact ⟨"prop", by decide, rfl⟩
  | setProperty scope path value => exact h.elim
  | setAttr x name value => exact h.elim
  | setMember x name value => exact h.elim

theorem Scoped.name_of_mem {start : Nat} {setup : List Stmt} (h : Scoped start setup) {n : String}
    (mem : n ∈ namesOf setup) :
    ∃ stem i, stem.toList.all (fun c => !c.isDigit) = true ∧ i < setup.length ∧
      n = stem ++ toString (start + i) := by
  obtain ⟨st, within, named⟩ := List.mem_filterMap.1 mem
  obtain ⟨i, bound, at_⟩ := List.mem_iff_getElem.1 within
  have found : setup[i]? = some st := by rw [List.getElem?_eq_getElem bound, at_]
  obtain ⟨stem, plain, name⟩ := (h.get found).1.name
  rw [named] at name
  exact ⟨stem, i, plain, bound, Option.some.inj name⟩

theorem Scoped.nodup {start : Nat} {setup : List Stmt} (h : Scoped start setup) :
    (namesOf setup).Nodup := by
  induction h with
  | nil => exact List.nodup_nil
  | @snoc before last earlier numbered uses ih =>
      obtain ⟨stem, plain, name⟩ := numbered.name
      rw [namesOf_append, show namesOf [last] = [stem ++ toString (start + before.length)] by
        simp [namesOf, name]]
      refine List.nodup_append.2 ⟨ih, by simp, ?_⟩
      intro n mem m isLast same
      obtain ⟨stem', i, plain', bound, rfl⟩ := earlier.name_of_mem mem
      rw [List.mem_singleton] at isLast
      have := number_of_name plain' plain (same.trans isLast)
      omega

/-! ## What reading adds -/

/-- The setup statements `b` are those of `a` and scoped ones after them, and the given expressions
use only names of the statements after `a`. -/
def Adds (a b : List Stmt) (xs : List Expr) : Prop :=
  ∃ added, b = a ++ added ∧ Scoped a.length added ∧ Expr.Uses (namesOf added) xs

theorem Adds.nothing {a : List Stmt} {xs : List Expr} (h : Expr.Uses [] xs) : Adds a a xs :=
  ⟨[], by rw [List.append_nil], .nil, h⟩

theorem Adds.trans {a b c : List Stmt} {xs ys : List Expr} (h : Adds a b xs) (h' : Adds b c ys) :
    Adds a c (xs ++ ys) := by
  obtain ⟨first, rfl, inOrder, uses⟩ := h
  obtain ⟨second, rfl, inOrder', uses'⟩ := h'
  rw [List.length_append] at inOrder'
  refine ⟨first ++ second, by rw [List.append_assoc], inOrder.append inOrder', ?_⟩
  rw [namesOf_append, Expr.uses_append]
  exact ⟨uses.mono fun n mem => List.mem_append_left _ mem,
    uses'.mono fun n mem => List.mem_append_right _ mem⟩

theorem Adds.imp {a b : List Stmt} {xs ys : List Expr} (h : Adds a b xs)
    (step : ∀ names, Expr.Uses names xs → Expr.Uses names ys) : Adds a b ys := by
  obtain ⟨added, rfl, inOrder, uses⟩ := h
  exact ⟨added, rfl, inOrder, step _ uses⟩

namespace Binding

variable {s : Setting} {marker : MarkerRule}

theorem located_adds (a : List Stmt) (locator : Locator) :
    Adds a (located a locator).2 (located a locator).1.parts := by
  cases locator with
  | self => exact .nothing (by simp [located, Expr.parts])
  | find selector whole =>
      refine ⟨[.lookup ("el" ++ toString a.length) selector whole], rfl, ?_, ?_⟩
      · exact .snoc .nil rfl Expr.uses_nil
      · simp [located, Expr.parts, namesOf, Stmt.name?]

/-- A statement that names a value of what was read so far. -/
theorem Adds.declare {a b : List Stmt} {xs : List Expr} {stem : String} {value : Expr}
    (h : Adds a b xs) (isStem : stem = "attr" ∨ stem = "prop")
    (uses : ∀ names, Expr.Uses names xs → Expr.Uses names value.parts) :
    Adds a (b ++ [Stmt.declare (stem ++ toString b.length) value])
      (Expr.var (stem ++ toString b.length)).parts := by
  obtain ⟨added, rfl, inOrder, known⟩ := h
  refine ⟨added ++ [Stmt.declare (stem ++ toString (a ++ added).length) value],
    by rw [List.append_assoc], .snoc inOrder ?_ ?_, ?_⟩
  · rw [List.length_append]
    obtain rfl | rfl := isStem
    · exact .inl rfl
    · exact .inr rfl
  · exact uses _ known
  · simp [Expr.parts, namesOf, Stmt.name?]

theorem accessed_adds (side : Side) (a : List Stmt) (found : Accessor) :
    Adds a (accessed side a found).2 (accessed side a found).1.parts := by
  have first := located_adds a found.element
  unfold accessed
  split
  · exact Adds.declare first (.inl rfl) fun names uses => by simpa [Expr.parts] using uses
  · exact Adds.declare first (.inr rfl) fun names uses => Expr.uses_memberPath _ uses

theorem uses_of_namedValue {name : String} {x : Expr} (found : namedValue? name = some x) :
    Expr.Uses [] x.parts := by
  unfold namedValue? at found
  repeat' split at found
  all_goals cases found
  all_goals simp [Expr.parts]

mutual

theorem IsExpr.adds {a b : List Stmt} {ts : List Token} {x : Expr} :
    IsExpr marker s a ts x b → Adds a b x.parts
  | .plain h => h.adds
  | .cond c _ t _ e =>
      (c.adds.trans (t.adds.trans e.adds)).imp fun names uses => by simpa [Expr.parts] using uses

theorem IsBinary.adds {least : Nat} {a b : List Stmt} {ts : List Token} {x : Expr} :
    IsBinary marker s least a ts x b → Adds a b x.parts
  | .operand h => h.adds
  | .apply left _ _ right =>
      (left.adds.trans right.adds).imp fun names uses => by simpa [Expr.parts] using uses

theorem IsUnary.adds {a b : List Stmt} {ts : List Token} {x : Expr} :
    IsUnary marker s a ts x b → Adds a b x.parts
  | .operand h => h.adds
  | .apply _ h => h.adds.imp fun names uses => by simpa [Expr.parts] using uses

theorem IsOperand.adds {f : Follow} {a b : List Stmt} {ts : List Token} {x : Expr} :
    IsOperand marker s f a ts x b → Adds a b x.parts
  | .number _ _ => .nothing (by simp [Expr.parts])
  | .string _ _ => .nothing (by simp [Expr.parts])
  | .paren _ h _ => h.adds.imp fun names uses => by simpa [Expr.parts] using uses
  | .named _ found => .nothing (uses_of_namedValue found)
  | .access _ _ _ _ => accessed_adds _ _ _
  | .global _ _ _ _ => .nothing (by simp [Expr.parts])
  | .path _ _ => .nothing (by simp [Expr.parts])
  | .method _ _ _ _ h => h.adds.imp fun names uses => by simpa [Expr.parts] using uses
  | .member h _ _ => h.adds.imp fun names uses => by simpa [Expr.parts] using uses
  | .call h _ _ _ args =>
      (h.adds.trans args.adds).imp fun names uses => by simpa [Expr.parts] using uses
  | .index h _ i _ =>
      (h.adds.trans i.adds).imp fun names uses => by simpa [Expr.parts] using uses

theorem IsArgs.adds {a b : List Stmt} {ts : List Token} {xs : List Expr} :
    IsArgs marker s a ts xs b → Adds a b (Expr.partsAll xs)
  | .none _ _ => .nothing (by simp [Expr.partsAll])
  | .some _ h => h.adds

theorem IsItems.adds {a b : List Stmt} {ts : List Token} {xs : List Expr} :
    IsItems marker s a ts xs b → Adds a b (Expr.partsAll xs)
  | .last h _ => h.adds.imp fun names uses => by simpa [Expr.partsAll] using uses
  | .more h _ tail =>
      (h.adds.trans tail.adds).imp fun names uses => by simpa [Expr.partsAll] using uses

end

/-! ## Programs -/

/-- An assignment that waits for its value and uses only given names. -/
inductive IsTemplate (names : List String) : Stmt → Prop
  | property (scope : Scope) (path : String) :
      IsTemplate names (.setProperty scope path .placeholder)
  | attr {x : Expr} (name : String) : Expr.Uses names x.parts →
      IsTemplate names (.setAttr x name .placeholder)
  | member {x : Expr} (name : String) : Expr.Uses names x.parts →
      IsTemplate names (.setMember x name .placeholder)

theorem isTemplate_setMemberPath {names : List String} {x : Expr} (path : String)
    (h : Expr.Uses names x.parts) : IsTemplate names (setMemberPath x path .placeholder) := by
  have uses := Expr.uses_memberPath path h
  unfold setMemberPath
  split
  · rename_i y name shape
    rw [shape] at uses
    exact .member name (by simpa [Expr.parts] using uses)
  · exact .member "" uses

/-- Reading a target adds scoped statements, and the assignment uses only their names. -/
theorem IsTarget.adds {a b : List Stmt} {ts : List Token} {st : Stmt} (h : IsTarget s a ts st b) :
    ∃ added, b = a ++ added ∧ Scoped a.length added ∧ IsTemplate (namesOf added) st := by
  cases h with
  | @attr _ _ found side read =>
      obtain ⟨added, shape, inOrder, uses⟩ := located_adds a found.element
      exact ⟨added, shape, inOrder, .attr _ uses⟩
  | @prop _ _ found side read =>
      obtain ⟨added, shape, inOrder, uses⟩ := located_adds a found.element
      exact ⟨added, shape, inOrder, isTemplate_setMemberPath _ uses⟩
  | global => exact ⟨[], by rw [List.append_nil], .nil, .property _ _⟩
  | data => exact ⟨[], by rw [List.append_nil], .nil, .property _ _⟩

theorem IsTemplate.uses_fill {names more : List String} {template assign : Stmt} {value : Expr}
    (h : IsTemplate names template) (filled : template.fill? value = some assign)
    (sub : ∀ n ∈ names, n ∈ more) (uses : Expr.Uses more value.parts) :
    Expr.Uses more assign.parts := by
  cases h with
  | property scope path =>
      cases filled
      exact uses
  | attr name known =>
      cases filled
      exact Expr.uses_append.2 ⟨known.mono sub, uses⟩
  | member name known =>
      cases filled
      exact Expr.uses_append.2 ⟨known.mono sub, uses⟩

/-- The setup statements of the two sides of a binding are scoped, one side after the other, and
each side uses only its own. -/
theorem ReadAs.scopes {global context : Int} {text : RawText} {template : Stmt}
    {first setup : List Stmt} {value : Expr}
    (h : ReadAs global context text template first value setup) :
    ∃ later, setup = first ++ later ∧ Scoped 0 setup ∧ IsTemplate (namesOf first) template ∧
      Expr.Uses (namesOf later) value.parts := by
  obtain ⟨-, readTarget, readSource⟩ := h
  obtain ⟨_, _, spelt, -⟩ := target_sound readTarget
  obtain ⟨added, shape, inOrder, waiting⟩ := spelt.adds
  obtain ⟨read, -⟩ := source_ok.1 readSource
  obtain ⟨_, _, derived, -⟩ := (sound _ _).expr read
  obtain ⟨later, shape', inOrder', uses⟩ := derived.adds
  rw [List.nil_append] at shape
  dsimp only at shape shape'
  subst shape shape'
  refine ⟨later, rfl, ?_, waiting, uses⟩
  exact inOrder.append (by simpa using inOrder')

/-- The statements of the target come first, then those of the value. Each is named by its number
and uses only names before it, and nothing that is still to be filled in is left. -/
theorem build_scoped {global context : Int} {text : RawText} {p : Program}
    (h : (build global context text).result = .ok p) :
    (∀ i st, p.setup[i]? = some st →
      st.Numbered i ∧ Expr.Uses (namesOf (p.setup.take i)) st.parts) ∧
    (namesOf p.setup).Nodup ∧
    (∃ assign, p.assign = some assign ∧ Expr.Uses (namesOf p.setup) assign.parts) ∧
    ∃ template first value later, ReadAs global context text template first value p.setup ∧
      p.assign = template.fill? value ∧ p.setup = first ++ later ∧
      IsTemplate (namesOf first) template ∧ Expr.Uses (namesOf later) value.parts := by
  obtain ⟨template, first, value, read, filled, isSome⟩ := build_ok h
  obtain ⟨later, shape, inOrder, waiting, uses⟩ := read.scopes
  refine ⟨fun i st found => ?_, inOrder.nodup, ?_, ?_⟩
  · simpa using inOrder.get found
  · obtain ⟨assign, some⟩ := Option.isSome_iff_exists.1 isSome
    rw [some] at filled
    refine ⟨assign, some, waiting.uses_fill filled.symm (fun n mem => ?_)
      (uses.mono fun n mem => ?_)⟩
    · rw [shape, namesOf_append]
      exact List.mem_append_left _ mem
    · rw [shape, namesOf_append]
      exact List.mem_append_right _ mem
  · exact ⟨template, first, value, later, read, filled, shape, waiting, uses⟩

/-- A binding with accessors on both sides. -/
def sampleBinding : String :=
  "attr(\"p\", \"title\") = prop(\"q\", \"a.b\") + prop(this, \"c\")"

/-- The tokens of `sampleBinding`. -/
def sampleTokens : List Token :=
  [⟨.identifier, 0, "attr"⟩, ⟨.leftParen, 4, "("⟩, ⟨.string, 5, "\"p\""⟩, ⟨.comma, 8, ","⟩,
    ⟨.string, 10, "\"title\""⟩, ⟨.rightParen, 17, ")"⟩, ⟨.assign, 19, "="⟩,
    ⟨.identifier, 21, "prop"⟩, ⟨.leftParen, 25, "("⟩, ⟨.string, 26, "\"q\""⟩, ⟨.comma, 29, ","⟩,
    ⟨.string, 31, "\"a.b\""⟩, ⟨.rightParen, 36, ")"⟩, ⟨.operator, 38, "+"⟩,
    ⟨.identifier, 40, "prop"⟩, ⟨.leftParen, 44, "("⟩, ⟨.identifier, 45, "this"⟩, ⟨.comma, 49, ","⟩,
    ⟨.string, 51, "\"c\""⟩, ⟨.rightParen, 54, ")"⟩, .eofAt 55]

/-- What `sampleBinding` compiles to. -/
def sampleProgram : Program :=
  ⟨[.lookup "el0" "p" false, .lookup "el1" "q" false,
    .declare "prop2" (.member (.member (.var "el1") "a") "b"),
    .declare "prop3" (.member .element "c")],
    some (.setAttr (.var "el0") "title" (.binary .add (.var "prop2") (.var "prop3")))⟩

theorem scan_sampleBinding : Token.scan sampleBinding = sampleTokens := by
  decide +kernel

theorem build_sampleBinding : (build 0 1 sampleBinding).result = .ok sampleProgram := by
  unfold build Assignment.ofText
  rw [Token.scanRaw, scan_sampleBinding]
  rfl

theorem sampleProgram_scoped :
    (build 0 1 sampleBinding).result = .ok sampleProgram ∧
      (∀ i st, sampleProgram.setup[i]? = some st →
        st.Numbered i ∧ Expr.Uses (namesOf (sampleProgram.setup.take i)) st.parts) ∧
      (namesOf sampleProgram.setup).Nodup := by
  have whole := build_scoped build_sampleBinding
  exact ⟨build_sampleBinding, whole.1, whole.2.1⟩

end Binding

end PageBinding
