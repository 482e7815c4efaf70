import PageBinding.Proofs.Run.Direct

/-!
Hoisting the accessors of a value keeps its meaning. If all of them can be read, then the value with
names in their place evaluates as the value with the accessors themselves, to the same result or the
same error. A value without `?:`, `&&` and `||` needs all of its accessors, so it can be evaluated in
one way exactly when it can in the other.
-/
namespace PageBinding

variable {w : World} {f : Frame} {locals last : Locals}

/-! ## Reading an accessor -/

/-- The expression that reads an accessor from an element. -/
def Accessor.expr (a : Accessor) (side : Side) (x : Expr) : Expr :=
  if side = .attr then .attr x a.name else Binding.memberPath x a.name

theorem eval_members (x : Expr) (keys : List String) :
    (keys.foldl Expr.member x).eval w f locals = x.eval w f locals >>= keys.foldlM w.getMember := by
  induction keys generalizing x with
  | nil => simp
  | cons key keys ih =>
    rw [List.foldl_cons, ih, Expr.eval, bind_assoc]
    rfl

theorem Accessor.eval_expr (a : Accessor) (side : Side) (x : Expr) :
    (a.expr side x).eval w f locals = x.eval w f locals >>= a.readFrom w side := by
  unfold expr readFrom
  split
  · rw [Expr.eval]
  · exact eval_members x (Store.keys a.name)

/-- The setup statements that look an element up. -/
def Locator.lookups (locator : Locator) (number : Nat) : List Stmt :=
  match locator with
  | self => []
  | find selector whole => [.lookup ("el" ++ toString number) selector whole]

theorem located_eq (setup : List Stmt) (locator : Locator) :
    (Binding.located setup locator).2 = setup ++ locator.lookups setup.length := by
  cases locator with
  | self => exact (List.append_nil setup).symm
  | find selector whole => rfl

/-- After its lookup, an element is what it would be in place. The lookup itself may find nothing; that
shows only where the element is used. -/
theorem located_named (locals : Locals) (setup : List Stmt) (locator : Locator)
    (read : Value → Except RunError Value) {v : Value} :
    (∃ next, Stmt.namedAll w f locals (locator.lookups setup.length) = .ok next ∧
      ((Binding.located setup locator).1.eval w f next >>= read) = .ok v) ↔
    (locator.value w f >>= read) = .ok v := by
  cases locator with
  | self =>
    have nothing : Stmt.namedAll w f locals (Locator.self.lookups setup.length) = .ok locals := rfl
    simp only [nothing, Except.ok.injEq, exists_eq_left', Binding.located, Expr.eval]
    rfl
  | find selector whole =>
    simp only [Locator.lookups, Stmt.namedAll_singleton, Stmt.named_lookup, Locator.value]
    cases w.find f selector whole with
    | error e => simp [bind, Except.bind]
    | ok found =>
      simp only [Except.ok.injEq, exists_eq_left', exists_eq_left, Binding.located, Expr.eval,
        Locals.get_cons_self]
      cases found <;> rfl

/-- Each lookup among these statements finds an element. -/
def AllFound (w : World) (f : Frame) (setup : List Stmt) : Prop :=
  ∀ name selector whole, .lookup name selector whole ∈ setup →
    ∃ e, w.find f selector whole = .ok (some e)

theorem allFound_append {a b : List Stmt} (first : AllFound w f a) (second : AllFound w f b) :
    AllFound w f (a ++ b) := by
  intro name selector whole mem
  exact (List.mem_append.1 mem).elim (first name selector whole) (second name selector whole)

theorem Locator.allFound {locator : Locator} {v : Value} (has : locator.value w f = .ok v)
    (number : Nat) : AllFound w f (locator.lookups number) := by
  cases locator with
  | self => exact nofun
  | find selector whole =>
    intro name selector' whole' mem
    cases List.mem_singleton.1 mem
    rw [Locator.value, except_bind_ok] at has
    obtain ⟨element?, found, has⟩ := has
    cases element? with
    | some e => exact ⟨e, found⟩
    | none => cases has

/-- The setup statements that look an accessor up and give a name to what it reads. -/
def Accessor.reads (found : Accessor) (side : Side) (name : String) (setup : List Stmt) : List Stmt :=
  found.element.lookups setup.length ++
    [.declare name (found.expr side (Binding.located setup found.element).1)]

theorem accessed_eq (side : Side) (setup : List Stmt) (found : Accessor) :
    ∃ name, (Binding.accessed side setup found).1 = .var name ∧
      (Binding.accessed side setup found).2 = setup ++ found.reads side name setup := by
  have joined (st : Stmt) : (Binding.located setup found.element).2 ++ [st] =
      setup ++ (found.element.lookups setup.length ++ [st]) := by
    rw [located_eq, List.append_assoc]
  unfold Binding.accessed Accessor.reads Accessor.expr
  dsimp only
  split
  · exact ⟨_, rfl, joined _⟩
  · exact ⟨_, rfl, joined _⟩

/-- The statements for an accessor succeed exactly when it has a value, and then name that value. -/
theorem Accessor.named_reads (found : Accessor) (side : Side) (name : String) (setup : List Stmt) :
    Stmt.namedAll w f locals (found.reads side name setup) = .ok last ↔
      ∃ v next, found.value w f side = .ok v ∧
        Stmt.namedAll w f locals (found.element.lookups setup.length) = .ok next ∧
        last = (name, .value v) :: next := by
  simp only [reads, Stmt.namedAll_append, Stmt.namedAll_singleton, Stmt.named_declare, eval_expr]
  constructor
  · rintro ⟨next, looked, v, read, rfl⟩
    exact ⟨v, next, (located_named locals setup _ _).1 ⟨next, looked, read⟩, looked, rfl⟩
  · rintro ⟨v, next, has, looked, rfl⟩
    obtain ⟨_, looked', read⟩ := (located_named locals setup found.element _).2 has
    cases looked.symm.trans looked'
    exact ⟨next, looked, v, read, rfl⟩

/-! ## The accessors of a tree -/

namespace Direct

mutual

/-- The accessors of a tree, from left to right. -/
def accesses : Direct → List (Side × Accessor)
  | leaf _ => []
  | access side a => [(side, a)]
  | member x _ | unary _ x | paren x => accesses x
  | index x i => accesses x ++ accesses i
  | call x _ args => accesses x ++ accessesAll args
  | binary _ l r => accesses l ++ accesses r
  | cond c t e => accesses c ++ (accesses t ++ accesses e)

/-- The accessors of trees. -/
def accessesAll : List Direct → List (Side × Accessor)
  | [] => []
  | x :: xs => accesses x ++ accessesAll xs

end

end Direct

theorem Direct.accessesAll_append (xs ys : List Direct) :
    accessesAll (xs ++ ys) = accessesAll xs ++ accessesAll ys := by
  induction xs with
  | nil => rfl
  | cons x xs ih => rw [List.cons_append, accessesAll, accessesAll, ih, List.append_assoc]

theorem Expr.partsAll_append (xs ys : List Expr) :
    partsAll (xs ++ ys) = partsAll xs ++ partsAll ys := by
  induction xs with
  | nil => rfl
  | cons x xs ih => rw [List.cons_append, partsAll, partsAll, ih, List.append_assoc]

theorem Expr.uses_of_mem {names : List String} {x : Expr} {xs : List Expr}
    (h : Uses names (partsAll xs)) (mem : x ∈ xs) : Uses names x.parts := by
  obtain ⟨before, after, rfl⟩ := List.append_of_mem mem
  rw [partsAll_append, uses_append, partsAll, uses_append] at h
  exact h.2.1

/-- All of these accessors can be looked up and read. -/
def Readable (w : World) (f : Frame) (accesses : List (Side × Accessor)) : Prop :=
  ∀ access ∈ accesses, ∃ v, access.2.value w f access.1 = .ok v

@[simp]
theorem readable_append {xs ys : List (Side × Accessor)} :
    Readable w f (xs ++ ys) ↔ Readable w f xs ∧ Readable w f ys := by
  simp only [Readable, List.mem_append, or_imp, forall_and]

/-! ## What hoisting keeps -/

/-- The setup statements `added` after `a` read the accessors of the trees `ds`, and then the
expressions `xs` have the values of these trees. -/
structure ReadBy (w : World) (f : Frame) (a added : List Stmt) (xs : List Expr) (ds : List Direct) :
    Prop where
  inOrder : Scoped a.length added
  uses : Expr.Uses (namesOf added) (Expr.partsAll xs)
  succeeds : ∀ locals, (∃ last, Stmt.namedAll w f locals added = .ok last) ↔
    Readable w f (Direct.accessesAll ds)
  means : ∀ {locals last}, Stmt.namedAll w f locals added = .ok last →
    xs.map (Expr.eval w f last) = ds.map (Direct.eval w f)
  found : ∀ {locals last}, Stmt.namedAll w f locals added = .ok last → AllFound w f added

/-- The setup statements `b` are those of `a` and statements that read the trees `ds`, so that the
expressions `xs` have their values. -/
def Hoists (w : World) (f : Frame) (a b : List Stmt) (xs : List Expr) (ds : List Direct) : Prop :=
  ∃ added, b = a ++ added ∧ ReadBy w f a added xs ds

namespace Hoists

variable {a b c : List Stmt} {xs ys : List Expr} {ds es : List Direct} {x : Expr} {d : Direct}

theorem nil : Hoists w f a a [] [] :=
  ⟨[], by rw [List.append_nil], .nil, Expr.uses_nil,
    fun locals => ⟨fun _ => nofun, fun _ => ⟨locals, rfl⟩⟩, fun _ => rfl, fun _ => nofun⟩

/-- One after another: the statements of the second give new names, so they leave the values of the
first. -/
theorem append (first : Hoists w f a b xs ds) (second : Hoists w f b c ys es) :
    Hoists w f a c (xs ++ ys) (ds ++ es) := by
  obtain ⟨added, rfl, first⟩ := first
  obtain ⟨more, rfl, second⟩ := second
  have inOrder : Scoped a.length (added ++ more) := by
    refine first.inOrder.append ?_
    rw [← List.length_append]
    exact second.inOrder
  refine ⟨added ++ more, List.append_assoc .., inOrder, ?_, fun locals => ?_, fun named => ?_,
    fun named => ?_⟩
  · rw [namesOf_append, Expr.partsAll_append, Expr.uses_append]
    exact ⟨first.uses.mono fun name => List.mem_append_left _,
      second.uses.mono fun name => List.mem_append_right _⟩
  · rw [Direct.accessesAll_append, readable_append, ← first.succeeds locals]
    constructor
    · rintro ⟨last, named⟩
      obtain ⟨next, begun, ended⟩ := Stmt.namedAll_append.1 named
      exact ⟨⟨next, begun⟩, (second.succeeds next).1 ⟨last, ended⟩⟩
    · rintro ⟨⟨next, begun⟩, readable⟩
      obtain ⟨last, ended⟩ := (second.succeeds next).2 readable
      exact ⟨last, Stmt.namedAll_append.2 ⟨next, begun, ended⟩⟩
  · obtain ⟨next, begun, ended⟩ := Stmt.namedAll_append.1 named
    rw [List.map_append, List.map_append, ← first.means begun, ← second.means ended]
    congr 1
    refine List.map_congr_left fun x mem => ?_
    exact Expr.eval_after (Expr.uses_of_mem first.uses mem) inOrder.apart ended
  · obtain ⟨next, begun, ended⟩ := Stmt.namedAll_append.1 named
    exact allFound_append (first.found begun) (second.found ended)

/-- An expression that is made of others, as a tree is made of the trees of the others. -/
theorem build (h : Hoists w f a b xs ds)
    (uses : ∀ names, Expr.Uses names (Expr.partsAll xs) → Expr.Uses names x.parts)
    (accesses : d.accesses = Direct.accessesAll ds)
    (means : ∀ last, xs.map (Expr.eval w f last) = ds.map (Direct.eval w f) →
      x.eval w f last = d.eval w f) :
    Hoists w f a b [x] [d] := by
  obtain ⟨added, rfl, h⟩ := h
  refine ⟨added, rfl, h.inOrder, ?_, fun locals => ?_, fun named => ?_, h.found⟩
  · simpa [Expr.partsAll] using uses _ h.uses
  · rw [h.succeeds locals, Direct.accessesAll, Direct.accessesAll, List.append_nil, accesses]
  · rw [List.map_singleton, List.map_singleton, means _ (h.means named)]

theorem leaf (operand : Leaf) : Hoists w f a a [operand.expr] [.leaf operand] := by
  refine nil.build (fun names _ => ?_) rfl fun last _ => ?_
  · cases operand <;> simp [Leaf.expr, Expr.parts]
  · rw [Direct.eval]
    cases operand <;> simp only [Leaf.expr, Expr.eval]

/-- The statements for an accessor look it up and read it, and the name that they give has the value
that was read. -/
theorem access (a : List Stmt) (side : Side) (found : Accessor) :
    Hoists w f a (Binding.accessed side a found).2 [(Binding.accessed side a found).1]
      [.access side found] := by
  obtain ⟨added, shape, inOrder, uses⟩ := Binding.accessed_adds side a found
  obtain ⟨name, isName, shape'⟩ := accessed_eq side a found
  obtain rfl := List.append_cancel_left (shape.symm.trans shape')
  refine ⟨_, shape, inOrder, by simpa [Expr.partsAll] using uses, fun locals => ?_, fun named => ?_,
    fun named => ?_⟩
  · have readable : Readable w f (Direct.accessesAll [.access side found]) ↔
        ∃ v, found.value w f side = .ok v := by
      simp [Direct.accessesAll, Direct.accesses, Readable]
    rw [readable]
    constructor
    · rintro ⟨last, named⟩
      obtain ⟨v, -, has, -⟩ := (found.named_reads ..).1 named
      exact ⟨v, has⟩
    · rintro ⟨v, has⟩
      obtain ⟨next, looked, -⟩ := (located_named locals a found.element _).2 has
      exact ⟨_, (found.named_reads ..).2 ⟨v, next, has, looked, rfl⟩⟩
  · obtain ⟨v, next, has, -, rfl⟩ := (found.named_reads ..).1 named
    rw [isName, List.map_singleton, List.map_singleton, Expr.eval, Direct.eval, has,
      Locals.get_cons_self]
  · obtain ⟨v, -, has, -⟩ := (found.named_reads ..).1 named
    obtain ⟨owner, located, -⟩ := except_bind_ok.1 has
    refine allFound_append (Locator.allFound located _) fun name selector whole mem => ?_
    cases List.mem_singleton.1 mem

end Hoists

theorem evalAll_of_map {xs : List Expr} {ds : List Direct}
    (same : xs.map (Expr.eval w f last) = ds.map (Direct.eval w f)) :
    Expr.evalAll w f last xs = Direct.evalAll w f ds := by
  induction xs generalizing ds with
  | nil =>
    rw [List.map_nil, eq_comm, List.map_eq_nil_iff] at same
    rw [same, Expr.evalAll, Direct.evalAll]
  | cons x xs ih =>
    cases ds with
    | nil => cases same
    | cons d ds =>
      rw [List.map_cons, List.map_cons, List.cons.injEq] at same
      rw [Expr.evalAll, Direct.evalAll, same.1, ih same.2]

namespace Direct

mutual

/-- Hoisting the accessors of a tree keeps its meaning. -/
theorem hoists (a : List Stmt) : (d : Direct) → Hoists w f a (d.hoist a).2 [(d.hoist a).1] [d]
  | leaf operand => by
    rw [hoist]
    exact .leaf operand
  | access side found => by
    rw [hoist]
    exact .access a side found
  | member x name => by
    rw [hoist]
    refine (x.hoists a).build (by simp [Expr.parts, Expr.partsAll]) (by simp [accesses, accessesAll]) ?_
    intro last same
    rw [Expr.eval, eval, (List.cons.inj same).1]
  | index x i => by
    rw [hoist]
    refine ((x.hoists a).append (i.hoists _)).build (by simp [Expr.parts, Expr.partsAll])
      (by simp [accesses, accessesAll]) ?_
    intro last same
    obtain ⟨first, rest⟩ := List.cons.inj same
    rw [Expr.eval, eval, first, (List.cons.inj rest).1]
  | call x method args => by
    rw [hoist]
    refine ((x.hoists a).append (hoistsAll _ args)).build (by simp [Expr.parts, Expr.partsAll])
      (by simp [accesses, accessesAll]) ?_
    intro last same
    rw [List.singleton_append, List.singleton_append] at same
    obtain ⟨first, rest⟩ := List.cons.inj same
    rw [Expr.eval, eval, first, evalAll_of_map rest]
  | unary op x => by
    rw [hoist]
    refine (x.hoists a).build (by simp [Expr.parts, Expr.partsAll]) (by simp [accesses, accessesAll]) ?_
    intro last same
    rw [Expr.eval, eval, (List.cons.inj same).1]
  | binary op l r => by
    rw [hoist]
    refine ((l.hoists a).append (r.hoists _)).build (by simp [Expr.parts, Expr.partsAll])
      (by simp [accesses, accessesAll]) ?_
    intro last same
    obtain ⟨first, rest⟩ := List.cons.inj same
    rw [Expr.eval, eval, first, (List.cons.inj rest).1]
  | cond c t e => by
    rw [hoist]
    refine ((c.hoists a).append ((t.hoists _).append (e.hoists _))).build
      (by simp [Expr.parts, Expr.partsAll]) (by simp [accesses, accessesAll]) ?_
    intro last same
    obtain ⟨first, rest⟩ := List.cons.inj same
    obtain ⟨second, rest⟩ := List.cons.inj rest
    rw [Expr.eval, eval, first, second, (List.cons.inj rest).1]
  | paren x => by
    rw [hoist]
    refine (x.hoists a).build (by simp [Expr.parts, Expr.partsAll]) (by simp [accesses, accessesAll]) ?_
    intro last same
    rw [Expr.eval, eval, (List.cons.inj same).1]

theorem hoistsAll (a : List Stmt) : (ds : List Direct) →
    Hoists w f a (hoistAll a ds).2 (hoistAll a ds).1 ds
  | [] => by
    rw [hoistAll]
    exact .nil
  | d :: ds => by
    rw [hoistAll]
    exact (d.hoists a).append (hoistsAll _ ds)

end

mutual

/-- A tree all of which is evaluated has a value only if each of its accessors has one. -/
theorem readable_of_eval : (d : Direct) → d.isStrict = true → {v : Value} → d.eval w f = .ok v →
    Readable w f d.accesses
  | leaf _, _, _, _ => nofun
  | access side a, _, v, h => by
    rw [eval] at h
    simpa [Readable, accesses] using ⟨v, h⟩
  | member x _, strict, _, h => by
    rw [eval, except_bind_ok] at h
    obtain ⟨_, first, -⟩ := h
    rw [accesses]
    exact x.readable_of_eval strict first
  | index x i, strict, _, h => by
    rw [isStrict, Bool.and_eq_true] at strict
    simp only [eval, except_bind_ok] at h
    obtain ⟨_, first, _, second, -⟩ := h
    rw [accesses, readable_append]
    exact ⟨x.readable_of_eval strict.1 first, i.readable_of_eval strict.2 second⟩
  | call x _ args, strict, _, h => by
    rw [isStrict, Bool.and_eq_true] at strict
    simp only [eval, except_bind_ok] at h
    obtain ⟨_, first, _, second, -⟩ := h
    rw [accesses, readable_append]
    exact ⟨x.readable_of_eval strict.1 first, readable_of_evalAll args strict.2 second⟩
  | unary _ x, strict, _, h => by
    rw [eval, except_bind_ok] at h
    obtain ⟨_, first, -⟩ := h
    rw [accesses]
    exact x.readable_of_eval strict first
  | binary op l r, strict, _, h => by
    simp only [isStrict, Bool.and_eq_true, bne_iff_ne] at strict
    obtain ⟨⟨⟨notAnd, notOr⟩, strictLeft⟩, strictRight⟩ := strict
    simp only [eval, except_bind_ok, if_neg notAnd, if_neg notOr] at h
    obtain ⟨_, first, _, second, -⟩ := h
    rw [accesses, readable_append]
    exact ⟨l.readable_of_eval strictLeft first, r.readable_of_eval strictRight second⟩
  | cond _ _ _, strict, _, _ => by cases strict
  | paren x, strict, _, h => by
    rw [eval] at h
    rw [accesses]
    exact x.readable_of_eval strict h

theorem readable_of_evalAll : (ds : List Direct) → areStrict ds = true → {vs : List Value} →
    evalAll w f ds = .ok vs → Readable w f (accessesAll ds)
  | [], _, _, _ => nofun
  | d :: ds, strict, _, h => by
    rw [areStrict, Bool.and_eq_true] at strict
    simp only [evalAll, except_bind_ok] at h
    obtain ⟨_, first, _, second, -⟩ := h
    rw [accessesAll, readable_append]
    exact ⟨d.readable_of_eval strict.1 first, readable_of_evalAll ds strict.2 second⟩

end

end Direct

/-- Reading the tokens that spell a tree hoists its accessors. -/
theorem Binding.hoists_of_spelt {s : Setting} {a b : List Stmt} {ts : List Token} {x : Expr}
    {d : Direct} (spelt : SpellsExpr s ts d) (h : IsExpr OptionalPath s a ts x b) :
    Hoists w f a b [x] [d] := by
  have hoists : Hoists w f a _ _ [d] := d.hoists a
  rw [hoist_of_spelt spelt h] at hoists
  exact hoists

end PageBinding
