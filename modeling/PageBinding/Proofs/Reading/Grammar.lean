import PageBinding.Proofs.Reading.Step

/-!
The grammar of values.

`IsExpr marker s a ts x b` says that the tokens `ts` spell the expression `x`. Accessors in a value
are read by setup statements, so a derivation also leads from the setup statements `a` before it to
the statements `b` after it; a value without accessors leaves them as they are.

* A conditional binds least and nests to the right.
* Binary operators stand on the levels of `BinaryOp.precedence?` and nest to the left.
* Unary operators bind tighter, and members, method calls and indexes tightest.
* A path of names is one operand. It takes in every name after a dot, except the last before a
  parenthesis: that one is a method, and the names before it are the path it is called on.

What may stand after a marker of the global data is a parameter of the grammar.
-/
namespace PageBinding.Binding

/-! ## Names and paths -/

/-- A name in a path, a member or a method: any but the reserved one. -/
def IsName (t : Token) : Prop :=
  t.kind = .identifier ∧ t.text ≠ reserved

/-- Names with dots between them. -/
inductive IsPath : List Token → List String → Prop
  | last {t : Token} : IsName t → IsPath [t] [t.text]
  | more {t dot : Token} {ts : List Token} {names : List String} :
      IsName t → dot.kind = .dot → IsPath ts names → IsPath (t :: dot :: ts) (t.text :: names)

/-- A name that begins a path: it has no meaning of its own. -/
def BeginsPath (name : String) : Prop :=
  namedValue? name = none ∧ name ≠ "this" ∧ Side.isGlobalMarker name = false ∧
    Text.startsWith name "$" = false

/-- How an operand may go on. -/
inductive Follow
  /-- With members, method calls and indexes. -/
  | all
  /-- With method calls and indexes: a member would be part of the path. -/
  | method
  /-- With indexes. -/
  | index
  deriving DecidableEq

/-- What may stand after a marker of the global data: the tokens, the path that they spell, and how
the operand may go on. -/
abbrev MarkerRule := List Token → String → Follow → Prop

/-- Nothing, or a dot and a path. -/
inductive DottedPath : MarkerRule
  | none : DottedPath [] "" .index
  | path {dot : Token} {ts : List Token} {names : List String} :
      dot.kind = .dot → IsPath ts names → DottedPath (dot :: ts) (joinPath names) .method

/-- Nothing, or a dot and a path that may be missing. -/
inductive OptionalPath : MarkerRule
  | dotted {ts : List Token} {path : String} {f : Follow} :
      DottedPath ts path f → OptionalPath ts path f
  | missing {dot : Token} : dot.kind = .dot → OptionalPath [dot] "" .all

/-! ## Expressions -/

section
variable (marker : MarkerRule) (s : Setting)

mutual

/-- Conditionals, and all that binds more tightly. -/
inductive IsExpr : List Stmt → List Token → Expr → List Stmt → Prop
  | plain {a b : List Stmt} {ts : List Token} {x : Expr} : IsBinary 1 a ts x b → IsExpr a ts x b
  | cond {a b c d : List Stmt} {ts us vs : List Token} {question colon : Token} {x y z : Expr} :
      IsBinary 1 a ts x b → question.kind = .question → IsExpr b us y c → colon.kind = .colon →
      IsExpr c vs z d → IsExpr a (ts ++ question :: (us ++ colon :: vs)) (.cond x y z) d

/-- Operands joined by operators that bind at least as tightly as the level. -/
inductive IsBinary : Nat → List Stmt → List Token → Expr → List Stmt → Prop
  | operand {least : Nat} {a b : List Stmt} {ts : List Token} {x : Expr} :
      IsUnary a ts x b → IsBinary least a ts x b
  | apply {least level : Nat} {a b c : List Stmt} {ts us : List Token} {t : Token} {op : BinaryOp}
      {x y : Expr} :
      IsBinary level a ts x b → binaryOp? t = some (op, level) → least ≤ level →
      IsBinary (level + 1) b us y c → IsBinary least a (ts ++ t :: us) (.binary op x y) c

/-- An operand with operators before it. -/
inductive IsUnary : List Stmt → List Token → Expr → List Stmt → Prop
  | operand {f : Follow} {a b : List Stmt} {ts : List Token} {x : Expr} :
      IsOperand f a ts x b → IsUnary a ts x b
  | apply {a b : List Stmt} {t : Token} {ts : List Token} {op : UnaryOp} {x : Expr} :
      unaryOp? t = some op → IsUnary a ts x b → IsUnary a (t :: ts) (.unary op x) b

/-- An operand with members, method calls and indexes after it. -/
inductive IsOperand : Follow → List Stmt → List Token → Expr → List Stmt → Prop
  | number {a : List Stmt} {t : Token} {v : Float} :
      t.kind = .number → Number.read t.text.toList = .ok v →
      IsOperand .all a [t] (.lit t.text (.number v)) a
  | string {a : List Stmt} {t : Token} {text : RawText} :
      t.kind = .string → unquoted s.text t = .ok text →
      IsOperand .all a [t] (.lit (Literal.quoteRaw text) (.ofRaw text)) a
  | paren {a b : List Stmt} {ts : List Token} {left right : Token} {x : Expr} :
      left.kind = .leftParen → IsExpr a ts x b → right.kind = .rightParen →
      IsOperand .all a (left :: (ts ++ [right])) (.paren x) b
  | named {a : List Stmt} {t : Token} {x : Expr} :
      t.kind = .identifier → namedValue? t.text = some x → IsOperand .all a [t] x a
  | access {a : List Stmt} {t : Token} {ts : List Token} {found : Accessor} :
      t.kind = .identifier → (t.text = "attr" ∨ t.text = "prop") → s.side = markerSide t.text →
      (∀ rest, accessor s.text t.text s.stop (t :: (ts ++ rest)) = .ok (found, rest)) →
      IsOperand .all a (t :: ts) (accessed s.side a found).1 (accessed s.side a found).2
  | global {f : Follow} {a : List Stmt} {t : Token} {ts : List Token} {path : String} :
      t.kind = .identifier → Side.isGlobalMarker t.text = true → s.side = .global →
      marker ts path f → IsOperand f a (t :: ts) (.get (.fixed s.global) path) a
  | path {a : List Stmt} {t : Token} {ts : List Token} {names : List String} :
      IsPath (t :: ts) names → BeginsPath t.text →
      IsOperand .index a (t :: ts) (.get (.bound s.context) (joinPath names)) a
  | method {a b : List Stmt} {t dot name : Token} {ts us : List Token} {names : List String}
      {xs : List Expr} :
      IsPath (t :: ts) names → BeginsPath t.text → dot.kind = .dot → IsName name →
      IsArgs a us xs b →
      IsOperand .all a (t :: (ts ++ dot :: name :: us))
        (.call (.get (.bound s.context) (joinPath names)) name.text xs) b
  | member {a b : List Stmt} {ts : List Token} {dot name : Token} {x : Expr} :
      IsOperand .all a ts x b → dot.kind = .dot → IsName name →
      IsOperand .all a (ts ++ [dot, name]) (.member x name.text) b
  | call {f : Follow} {a b c : List Stmt} {ts us : List Token} {dot name : Token} {x : Expr}
      {xs : List Expr} :
      IsOperand f a ts x b → f ≠ .index → dot.kind = .dot → IsName name → IsArgs b us xs c →
      IsOperand .all a (ts ++ dot :: name :: us) (.call x name.text xs) c
  | index {f : Follow} {a b c : List Stmt} {ts us : List Token} {left right : Token} {x i : Expr} :
      IsOperand f a ts x b → left.kind = .leftBrack → IsExpr b us i c → right.kind = .rightBrack →
      IsOperand .all a (ts ++ left :: (us ++ [right])) (.index x i) c

/-- Arguments in parentheses. -/
inductive IsArgs : List Stmt → List Token → List Expr → List Stmt → Prop
  | none {a : List Stmt} {left right : Token} :
      left.kind = .leftParen → right.kind = .rightParen → IsArgs a [left, right] [] a
  | some {a b : List Stmt} {left : Token} {ts : List Token} {xs : List Expr} :
      left.kind = .leftParen → IsItems a ts xs b → IsArgs a (left :: ts) xs b

/-- Arguments up to the closing parenthesis. -/
inductive IsItems : List Stmt → List Token → List Expr → List Stmt → Prop
  | last {a b : List Stmt} {ts : List Token} {right : Token} {x : Expr} :
      IsExpr a ts x b → right.kind = .rightParen → IsItems a (ts ++ [right]) [x] b
  | more {a b c : List Stmt} {ts us : List Token} {comma : Token} {x : Expr} {xs : List Expr} :
      IsExpr a ts x b → comma.kind = .comma → IsItems b us xs c →
      IsItems a (ts ++ comma :: us) (x :: xs) c

end

end

end PageBinding.Binding
