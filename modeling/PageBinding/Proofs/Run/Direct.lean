import PageBinding.Proofs.Reading.Compiles
import PageBinding.Proofs.Run.Locals

/-!
The values of bindings as they are written, with accessors in place, and what they mean when each
accessor is looked up and read at the point where its value is needed.

* `Direct.eval` is that meaning. It knows nothing of setup statements.
* `SpellsExpr` says which tokens spell which tree.
* `Direct.hoist` takes the accessors out of a tree, from left to right, and puts names in their place.
  Reading the tokens of a tree gives the hoisted tree (`SpellsExpr.hoisted`), and all that can be read
  is spelt by some tree (`IsExpr.direct`).
-/
namespace PageBinding

/-! ## Trees -/

/-- An operand that needs no names. -/
inductive Leaf
  | lit (text : String) (value : Value)
  | event
  | target
  | element
  | get (scope : Scope) (path : String)

/-- The expression that an operand is. -/
def Leaf.expr : Leaf → Expr
  | lit text value => .lit text value
  | event => .event
  | target => .target
  | element => .element
  | get scope path => .get scope path

/-- A value as it is written. -/
inductive Direct
  | leaf (operand : Leaf)
  /-- An attribute or a property of an element. -/
  | access (side : Side) (a : Accessor)
  | member (x : Direct) (name : String)
  | index (x i : Direct)
  | call (x : Direct) (method : String) (args : List Direct)
  | unary (op : UnaryOp) (x : Direct)
  | binary (op : BinaryOp) (l r : Direct)
  | cond (c t e : Direct)
  | paren (x : Direct)

/-! ## Meaning -/

/-- The element that an accessor addresses. -/
def Locator.value (w : World) (f : Frame) : Locator → Except RunError Value
  | self => .ok ((f.element.map Value.element).getD .undefined)
  | find selector whole => do
    match ← w.find f selector whole with
    | some e => return .element e
    | none => throw (.noElement selector whole)

/-- What an accessor reads from a value. -/
def Accessor.readFrom (a : Accessor) (w : World) (side : Side) (v : Value) : Except RunError Value :=
  if side = .attr then do
    let e ← v.asElement "getAttribute"
    return ((w.document.attr? e a.name).map Value.ofRaw).getD .null
  else (Store.keys a.name).foldlM w.getMember v

/-- The value of an accessor: its element is looked up, and then read. -/
def Accessor.value (a : Accessor) (w : World) (f : Frame) (side : Side) : Except RunError Value := do
  let v ← a.element.value w f
  a.readFrom w side v

namespace Direct

mutual

/-- The value of a tree. Accessors are looked up and read where they stand. -/
def eval (w : World) (f : Frame) : Direct → Except RunError Value
  | leaf operand => operand.expr.eval w f []
  | access side a => a.value w f side
  | member x name => do
    let v ← eval w f x
    w.getMember v name
  | index x i => do
    let v ← eval w f x
    let i ← eval w f i
    w.getIndex v i
  | call x method args => do
    let v ← eval w f x
    let vs ← evalAll w f args
    w.callMethod v method vs
  | unary op x => do
    let v ← eval w f x
    Expr.applied (Value.unary op v)
  | binary op l r => do
    let a ← eval w f l
    if op = .and then
      if a.truthy then eval w f r else return a
    else if op = .or then
      if a.truthy then return a else eval w f r
    else
      let b ← eval w f r
      Expr.applied (Value.binary op a b)
  | cond c t e => do
    let v ← eval w f c
    if v.truthy then eval w f t else eval w f e
  | paren x => eval w f x

/-- The values of trees, from the first to the last. -/
def evalAll (w : World) (f : Frame) : List Direct → Except RunError (List Value)
  | [] => .ok []
  | x :: xs => do
    let v ← eval w f x
    let vs ← evalAll w f xs
    return v :: vs

end

mutual

/-- Whether a tree has no conditional, no `&&` and no `||`, so that all of it is evaluated. -/
def isStrict : Direct → Bool
  | leaf _ | access _ _ => true
  | member x _ | unary _ x | paren x => isStrict x
  | index x i => isStrict x && isStrict i
  | call x _ args => isStrict x && areStrict args
  | binary op l r => op != .and && op != .or && isStrict l && isStrict r
  | cond _ _ _ => false

/-- Whether trees are all strict. -/
def areStrict : List Direct → Bool
  | [] => true
  | x :: xs => isStrict x && areStrict xs

end

/-! ## Hoisting -/

open Binding in
mutual

/-- A tree with names for its accessors, and the setup statements with those that give the names. -/
def hoist (a : List Stmt) : Direct → Expr × List Stmt
  | leaf operand => (operand.expr, a)
  | access side found => accessed side a found
  | member x name => (.member (hoist a x).1 name, (hoist a x).2)
  | index x i =>
    let x := hoist a x
    let i := hoist x.2 i
    (.index x.1 i.1, i.2)
  | call x method args =>
    let x := hoist a x
    let args := hoistAll x.2 args
    (.call x.1 method args.1, args.2)
  | unary op x => (.unary op (hoist a x).1, (hoist a x).2)
  | binary op l r =>
    let l := hoist a l
    let r := hoist l.2 r
    (.binary op l.1 r.1, r.2)
  | cond c t e =>
    let c := hoist a c
    let t := hoist c.2 t
    let e := hoist t.2 e
    (.cond c.1 t.1 e.1, e.2)
  | paren x => (.paren (hoist a x).1, (hoist a x).2)

/-- Trees with names for their accessors, from the first to the last. -/
def hoistAll (a : List Stmt) : List Direct → List Expr × List Stmt
  | [] => ([], a)
  | x :: xs =>
    let x := hoist a x
    let xs := hoistAll x.2 xs
    (x.1 :: xs.1, xs.2)

end

end Direct

/-! ## Spelling -/

namespace Binding

section
variable (s : Setting)

mutual

/-- Conditionals, and all that binds more tightly. -/
inductive SpellsExpr : List Token → Direct → Prop
  | plain {ts : List Token} {d : Direct} : SpellsBinary 1 ts d → SpellsExpr ts d
  | cond {ts us vs : List Token} {question colon : Token} {c t e : Direct} :
      SpellsBinary 1 ts c → question.kind = .question → SpellsExpr us t → colon.kind = .colon →
      SpellsExpr vs e → SpellsExpr (ts ++ question :: (us ++ colon :: vs)) (.cond c t e)

/-- Operands joined by operators that bind at least as tightly as the level. -/
inductive SpellsBinary : Nat → List Token → Direct → Prop
  | operand {least : Nat} {ts : List Token} {d : Direct} : SpellsUnary ts d → SpellsBinary least ts d
  | apply {least level : Nat} {ts us : List Token} {t : Token} {op : BinaryOp} {l r : Direct} :
      SpellsBinary level ts l → binaryOp? t = some (op, level) → least ≤ level →
      SpellsBinary (level + 1) us r → SpellsBinary least (ts ++ t :: us) (.binary op l r)

/-- An operand with operators before it. -/
inductive SpellsUnary : List Token → Direct → Prop
  | operand {f : Follow} {ts : List Token} {d : Direct} : SpellsOperand f ts d → SpellsUnary ts d
  | apply {t : Token} {ts : List Token} {op : UnaryOp} {d : Direct} :
      unaryOp? t = some op → SpellsUnary ts d → SpellsUnary (t :: ts) (.unary op d)

/-- An operand with members, method calls and indexes after it. -/
inductive SpellsOperand : Follow → List Token → Direct → Prop
  /-- A number, a string, a constant, a parameter or a path: an operand that adds no statement. -/
  | leaf {f : Follow} {ts : List Token} {operand : Leaf} :
      (∀ a, IsOperand OptionalPath s f a ts operand.expr a) → SpellsOperand f ts (.leaf operand)
  | access {t : Token} {ts : List Token} {found : Accessor} :
      t.kind = .identifier → (t.text = "attr" ∨ t.text = "prop") → s.side = markerSide t.text →
      (∀ rest, accessor s.text t.text s.stop (t :: (ts ++ rest)) = .ok (found, rest)) →
      SpellsOperand .all (t :: ts) (.access (markerSide t.text) found)
  | paren {ts : List Token} {left right : Token} {d : Direct} :
      left.kind = .leftParen → SpellsExpr ts d → right.kind = .rightParen →
      SpellsOperand .all (left :: (ts ++ [right])) (.paren d)
  | method {t dot name : Token} {ts us : List Token} {names : List String} {ds : List Direct} :
      IsPath (t :: ts) names → BeginsPath t.text → dot.kind = .dot → IsName name →
      SpellsArgs us ds →
      SpellsOperand .all (t :: (ts ++ dot :: name :: us))
        (.call (.leaf (.get (.bound s.context) (joinPath names))) name.text ds)
  | member {ts : List Token} {dot name : Token} {d : Direct} :
      SpellsOperand .all ts d → dot.kind = .dot → IsName name →
      SpellsOperand .all (ts ++ [dot, name]) (.member d name.text)
  | call {f : Follow} {ts us : List Token} {dot name : Token} {d : Direct} {ds : List Direct} :
      SpellsOperand f ts d → f ≠ .index → dot.kind = .dot → IsName name → SpellsArgs us ds →
      SpellsOperand .all (ts ++ dot :: name :: us) (.call d name.text ds)
  | index {f : Follow} {ts us : List Token} {left right : Token} {d i : Direct} :
      SpellsOperand f ts d → left.kind = .leftBrack → SpellsExpr us i → right.kind = .rightBrack →
      SpellsOperand .all (ts ++ left :: (us ++ [right])) (.index d i)

/-- Arguments in parentheses. -/
inductive SpellsArgs : List Token → List Direct → Prop
  | none {left right : Token} :
      left.kind = .leftParen → right.kind = .rightParen → SpellsArgs [left, right] []
  | some {left : Token} {ts : List Token} {ds : List Direct} :
      left.kind = .leftParen → SpellsItems ts ds → SpellsArgs (left :: ts) ds

/-- Arguments up to the closing parenthesis. -/
inductive SpellsItems : List Token → List Direct → Prop
  | last {ts : List Token} {right : Token} {d : Direct} :
      SpellsExpr ts d → right.kind = .rightParen → SpellsItems (ts ++ [right]) [d]
  | more {ts us : List Token} {comma : Token} {d : Direct} {ds : List Direct} :
      SpellsExpr ts d → comma.kind = .comma → SpellsItems us ds →
      SpellsItems (ts ++ comma :: us) (d :: ds)

end

end

variable {s : Setting}

mutual

/-- Reading a tree hoists its accessors. -/
theorem SpellsExpr.hoisted {ts : List Token} {d : Direct} (a : List Stmt) :
    SpellsExpr s ts d → IsExpr OptionalPath s a ts (d.hoist a).1 (d.hoist a).2
  | .plain h => .plain (h.hoisted a)
  | .cond c isQuestion t isColon e => by
    rw [Direct.hoist]
    exact .cond (c.hoisted a) isQuestion (t.hoisted _) isColon (e.hoisted _)

theorem SpellsBinary.hoisted {least : Nat} {ts : List Token} {d : Direct} (a : List Stmt) :
    SpellsBinary s least ts d → IsBinary OptionalPath s least a ts (d.hoist a).1 (d.hoist a).2
  | .operand h => .operand (h.hoisted a)
  | .apply l isOp level r => by
    rw [Direct.hoist]
    exact .apply (l.hoisted a) isOp level (r.hoisted _)

theorem SpellsUnary.hoisted {ts : List Token} {d : Direct} (a : List Stmt) :
    SpellsUnary s ts d → IsUnary OptionalPath s a ts (d.hoist a).1 (d.hoist a).2
  | .operand h => .operand (h.hoisted a)
  | .apply isOp h => by
    rw [Direct.hoist]
    exact .apply isOp (h.hoisted a)

theorem SpellsOperand.hoisted {f : Follow} {ts : List Token} {d : Direct} (a : List Stmt) :
    SpellsOperand s f ts d → IsOperand OptionalPath s f a ts (d.hoist a).1 (d.hoist a).2
  | .leaf h => by
    rw [Direct.hoist]
    exact h a
  | .access kind isFn side read => by
    rw [Direct.hoist, ← side]
    exact .access kind isFn side read
  | .paren isLeft h isRight => by
    rw [Direct.hoist]
    exact .paren isLeft (h.hoisted a) isRight
  | .method h begins isDot isName arguments => by
    rw [Direct.hoist, Direct.hoist]
    exact .method h begins isDot isName (arguments.hoisted a)
  | .member h isDot isName => by
    rw [Direct.hoist]
    exact .member (h.hoisted a) isDot isName
  | .call h notIndex isDot isName arguments => by
    rw [Direct.hoist]
    exact .call (h.hoisted a) notIndex isDot isName (arguments.hoisted _)
  | .index h isLeft i isRight => by
    rw [Direct.hoist]
    exact .index (h.hoisted a) isLeft (i.hoisted _) isRight

theorem SpellsArgs.hoisted {ts : List Token} {ds : List Direct} (a : List Stmt) :
    SpellsArgs s ts ds → IsArgs OptionalPath s a ts (Direct.hoistAll a ds).1 (Direct.hoistAll a ds).2
  | .none isLeft isRight => by
    rw [Direct.hoistAll]
    exact .none isLeft isRight
  | .some isLeft h => .some isLeft (h.hoisted a)

theorem SpellsItems.hoisted {ts : List Token} {ds : List Direct} (a : List Stmt) :
    SpellsItems s ts ds → IsItems OptionalPath s a ts (Direct.hoistAll a ds).1 (Direct.hoistAll a ds).2
  | .last h isRight => by
    rw [Direct.hoistAll, Direct.hoistAll]
    exact .last (h.hoisted a) isRight
  | .more h isComma rest => by
    rw [Direct.hoistAll]
    exact .more (h.hoisted a) isComma (rest.hoisted _)

end

theorem leaf_of_namedValue {name : String} {x : Expr} (found : namedValue? name = some x) :
    ∃ operand : Leaf, operand.expr = x := by
  unfold namedValue? at found
  repeat' split at found
  all_goals cases found
  · exact ⟨.lit _ _, rfl⟩
  · exact ⟨.lit _ _, rfl⟩
  · exact ⟨.lit _ _, rfl⟩
  · exact ⟨.lit _ _, rfl⟩
  · exact ⟨.event, rfl⟩
  · exact ⟨.target, rfl⟩
  · exact ⟨.element, rfl⟩

mutual

/-- What can be read is spelt by a tree. -/
theorem IsExpr.direct {a b : List Stmt} {ts : List Token} {x : Expr} :
    IsExpr OptionalPath s a ts x b → ∃ d, SpellsExpr s ts d
  | .plain h => by
    obtain ⟨d, spelt⟩ := h.direct
    exact ⟨d, .plain spelt⟩
  | .cond c isQuestion t isColon e => by
    obtain ⟨_, first⟩ := c.direct
    obtain ⟨_, second⟩ := t.direct
    obtain ⟨_, third⟩ := e.direct
    exact ⟨_, .cond first isQuestion second isColon third⟩

theorem IsBinary.direct {least : Nat} {a b : List Stmt} {ts : List Token} {x : Expr} :
    IsBinary OptionalPath s least a ts x b → ∃ d, SpellsBinary s least ts d
  | .operand h => by
    obtain ⟨d, spelt⟩ := h.direct
    exact ⟨d, .operand spelt⟩
  | .apply l isOp level r => by
    obtain ⟨_, first⟩ := l.direct
    obtain ⟨_, second⟩ := r.direct
    exact ⟨_, .apply first isOp level second⟩

theorem IsUnary.direct {a b : List Stmt} {ts : List Token} {x : Expr} :
    IsUnary OptionalPath s a ts x b → ∃ d, SpellsUnary s ts d
  | .operand h => by
    obtain ⟨d, spelt⟩ := h.direct
    exact ⟨d, .operand spelt⟩
  | .apply isOp h => by
    obtain ⟨_, spelt⟩ := h.direct
    exact ⟨_, .apply isOp spelt⟩

theorem IsOperand.direct {f : Follow} {a b : List Stmt} {ts : List Token} {x : Expr} :
    IsOperand OptionalPath s f a ts x b → ∃ d, SpellsOperand s f ts d
  | .number kind read => ⟨.leaf (.lit _ _), .leaf fun _ => .number kind read⟩
  | .string kind read => ⟨.leaf (.lit _ _), .leaf fun _ => .string kind read⟩
  | .paren isLeft h isRight => by
    obtain ⟨_, spelt⟩ := h.direct
    exact ⟨_, .paren isLeft spelt isRight⟩
  | .named kind found => by
    obtain ⟨operand, rfl⟩ := leaf_of_namedValue found
    exact ⟨_, .leaf fun _ => .named kind found⟩
  | .access kind isFn side read => ⟨_, .access kind isFn side read⟩
  | .global kind isMarker side h =>
    ⟨.leaf (.get _ _), .leaf fun _ => .global kind isMarker side h⟩
  | .path h begins => ⟨.leaf (.get _ _), .leaf fun _ => .path h begins⟩
  | .method h begins isDot isName arguments => by
    obtain ⟨_, spelt⟩ := arguments.direct
    exact ⟨_, .method h begins isDot isName spelt⟩
  | .member h isDot isName => by
    obtain ⟨_, spelt⟩ := h.direct
    exact ⟨_, .member spelt isDot isName⟩
  | .call h notIndex isDot isName arguments => by
    obtain ⟨_, spelt⟩ := h.direct
    obtain ⟨_, items⟩ := arguments.direct
    exact ⟨_, .call spelt notIndex isDot isName items⟩
  | .index h isLeft i isRight => by
    obtain ⟨_, spelt⟩ := h.direct
    obtain ⟨_, inside⟩ := i.direct
    exact ⟨_, .index spelt isLeft inside isRight⟩

theorem IsArgs.direct {a b : List Stmt} {ts : List Token} {xs : List Expr} :
    IsArgs OptionalPath s a ts xs b → ∃ ds, SpellsArgs s ts ds
  | .none isLeft isRight => ⟨[], .none isLeft isRight⟩
  | .some isLeft h => by
    obtain ⟨ds, spelt⟩ := h.direct
    exact ⟨ds, .some isLeft spelt⟩

theorem IsItems.direct {a b : List Stmt} {ts : List Token} {xs : List Expr} :
    IsItems OptionalPath s a ts xs b → ∃ ds, SpellsItems s ts ds
  | .last h isRight => by
    obtain ⟨d, spelt⟩ := h.direct
    exact ⟨[d], .last spelt isRight⟩
  | .more h isComma rest => by
    obtain ⟨d, spelt⟩ := h.direct
    obtain ⟨ds, items⟩ := rest.direct
    exact ⟨d :: ds, .more spelt isComma items⟩

end

/-- What is read from a side is the hoisted form of each tree that the side spells. -/
theorem hoist_of_spelt {a b : List Stmt} {ts : List Token} {x : Expr} {d : Direct}
    (spelt : SpellsExpr s ts d) (h : IsExpr OptionalPath s a ts x b) : d.hoist a = (x, b) := by
  obtain ⟨_, read⟩ := source_complete (spelt.hoisted a) []
  obtain ⟨_, read'⟩ := source_complete h []
  rw [read] at read'
  cases read'
  rfl

end Binding

end PageBinding
