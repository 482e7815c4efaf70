import PageBinding.Value.Operator

/-!
Programs: what a binding compiles to. A program looks up elements and reads from them, and then
makes one assignment.
-/
namespace PageBinding

/-- The data context of a path: a fixed one, or the context that the program is bound to when it
runs. -/
structure Scope where
  id : Int
  global : Bool
  deriving DecidableEq, Repr, Inhabited

namespace Scope

def bound (id : Int) : Scope := ⟨id, false⟩

def fixed (id : Int) : Scope := ⟨id, true⟩

def resolve (scope : Scope) (bound : Int) : Int :=
  if scope.global then scope.id else bound

end Scope

inductive Expr
  | lit (text : String) (value : Value)
  | event
  | target
  | element
  | var (name : String)
  | get (scope : Scope) (path : String)
  | attr (x : Expr) (name : String)
  | member (x : Expr) (name : String)
  | index (x i : Expr)
  | call (x : Expr) (method : String) (args : List Expr)
  | unary (op : UnaryOp) (x : Expr)
  | binary (op : BinaryOp) (l r : Expr)
  | cond (c t e : Expr)
  | paren (x : Expr)
  | placeholder
  deriving Inhabited

inductive Stmt
  /-- Names the first element that a selector matches, in the whole document or in the bound
  element. -/
  | lookup (name : String) (selector : RawText) (whole : Bool)
  | declare (name : String) (value : Expr)
  | setProperty (scope : Scope) (path : String) (value : Expr)
  | setAttr (x : Expr) (name : String) (value : Expr)
  | setMember (x : Expr) (name : String) (value : Expr)
  deriving Inhabited

structure Program where
  setup : List Stmt
  assign : Option Stmt
  deriving Inhabited

def Program.statements (p : Program) : List Stmt :=
  p.setup ++ p.assign.toList

namespace Expr

def isPlaceholder : Expr → Bool
  | placeholder => true
  | _ => false

end Expr

namespace Stmt

def value? : Stmt → Option Expr
  | lookup _ _ _ => none
  | declare _ value => some value
  | setProperty _ _ value => some value
  | setAttr _ _ value => some value
  | setMember _ _ value => some value

/-- An assignment with its placeholder replaced by a value; none if it has no placeholder. -/
def fill? (template : Stmt) (value : Expr) : Option Stmt :=
  match template with
  | setProperty scope path old =>
      if old.isPlaceholder then some (setProperty scope path value) else none
  | setAttr x name old => if old.isPlaceholder then some (setAttr x name value) else none
  | setMember x name old => if old.isPlaceholder then some (setMember x name value) else none
  | _ => none

end Stmt

end PageBinding
