import PageBinding.Value.Equality

/-!
The operators of expressions and their meaning on values.
-/
namespace PageBinding

inductive UnaryOp
  | not
  | minus
  | plus
  | unknown (spelling : String)
  deriving DecidableEq, Repr, Inhabited

inductive BinaryOp
  | or | and
  | looseEq | looseNe | strictEq | strictNe
  | lt | le | gt | ge
  | add | sub
  | mul | div | rem
  | unknown (spelling : String)
  deriving DecidableEq, Repr, Inhabited

namespace UnaryOp

def spelling : UnaryOp → String
  | not => "!"
  | minus => "-"
  | plus => "+"
  | unknown s => s

def ofSpelling (s : String) : UnaryOp :=
  if s = "!" then not
  else if s = "-" then minus
  else if s = "+" then plus
  else unknown s

end UnaryOp

namespace BinaryOp

def all : List BinaryOp :=
  [or, and, looseEq, looseNe, strictEq, strictNe, lt, le, gt, ge, add, sub, mul, div, rem]

def spelling : BinaryOp → String
  | or => "||"
  | and => "&&"
  | looseEq => "=="
  | looseNe => "!="
  | strictEq => "==="
  | strictNe => "!=="
  | lt => "<"
  | le => "<="
  | gt => ">"
  | ge => ">="
  | add => "+"
  | sub => "-"
  | mul => "*"
  | div => "/"
  | rem => "%"
  | unknown s => s

def ofSpelling (s : String) : BinaryOp :=
  match all.find? fun op => op.spelling == s with
  | some op => op
  | none => unknown s

def precedence? : BinaryOp → Option Nat
  | or => some 1
  | and => some 2
  | looseEq | looseNe | strictEq | strictNe => some 3
  | lt | le | gt | ge => some 4
  | add | sub => some 5
  | mul | div | rem => some 6
  | unknown _ => none

end BinaryOp

inductive OperatorError
  | unknownUnary (spelling : String)
  | unknownBinary (spelling : String)
  deriving DecidableEq, Repr

namespace Value

def unary (op : UnaryOp) (v : Value) : Except OperatorError Value :=
  match op with
  | .not => .ok (bool !v.truthy)
  | .minus => .ok (number (-v.toNumber))
  | .plus => .ok (number v.toNumber)
  | .unknown s => .error (.unknownUnary s)

def addsAsNumber : Value → Bool
  | null | undefined | bool _ => true
  | v => v.isNumber

def joined (a b : Value) : Value :=
  if a.keepsBytes || b.keepsBytes then ofBytes (a.toBytes ++ b.toBytes)
  else string (a.toText ++ b.toText)

def add (a b : Value) : Value :=
  if a.addsAsNumber && b.addsAsNumber then number (a.toNumber + b.toNumber) else joined a b

def compare (texts : List UInt8 → List UInt8 → Bool) (numbers : Float → Float → Bool)
    (a b : Value) : Bool :=
  match a.inCharacters, b.inCharacters with
  | string _, string _ => texts a.toBytes b.toBytes
  | _, _ => numbers a.toNumber b.toNumber

/-- An operator applied to two values. The operators `&&` and `||` do not evaluate their second
operand before they know the first, so they have no meaning here. -/
def binary (op : BinaryOp) (a b : Value) : Except OperatorError Value :=
  match op with
  | .add => .ok (add a b)
  | .sub => .ok (number (a.toNumber - b.toNumber))
  | .mul => .ok (number (a.toNumber * b.toNumber))
  | .div => .ok (number (a.toNumber / b.toNumber))
  | .rem => .ok (number (Number.remainder a.toNumber b.toNumber))
  | .looseEq => .ok (bool (looseEq a b))
  | .looseNe => .ok (bool !looseEq a b)
  | .strictEq => .ok (bool (strictEq a b))
  | .strictNe => .ok (bool !strictEq a b)
  | .lt => .ok (bool (compare (fun s t => s < t) (fun x y => x < y) a b))
  | .le => .ok (bool (compare (fun s t => !(t < s)) (fun x y => x ≤ y) a b))
  | .gt => .ok (bool (compare (fun s t => t < s) (fun x y => y < x) a b))
  | .ge => .ok (bool (compare (fun s t => !(s < t)) (fun x y => y ≤ x) a b))
  | .or => .error (.unknownBinary "||")
  | .and => .error (.unknownBinary "&&")
  | .unknown s => .error (.unknownBinary s)

end Value

end PageBinding
