import PageBinding.Value.Data
import PageBinding.Text.Case

/-!
The values of a running program.

Objects, elements and events are shared, so a value holds a reference to them. Arrays and tables
cannot be changed and are held whole.
-/
namespace PageBinding

structure ObjectRef where
  index : Nat
  deriving DecidableEq, Repr, Inhabited

structure ElementRef where
  index : Nat
  name : String
  deriving DecidableEq, Repr, Inhabited

structure EventRef where
  index : Nat
  deriving DecidableEq, Repr, Inhabited

inductive Value
  | null
  | undefined
  | bool (b : Bool)
  | string (s : String)
  | bytes (bs : List UInt8)
  | number (x : Float)
  | single (x : Float32)
  | int (n : Int64)
  | uint (n : UInt64)
  | array (items : List Value)
  | object (ref : ObjectRef)
  | table (entries : List (Data × Data))
  | element (ref : ElementRef)
  | event (ref : EventRef)
  deriving Inhabited

namespace ElementRef

def tagName (e : ElementRef) : String :=
  Text.upper e.name

def className (e : ElementRef) : String :=
  match (Text.upper e.name).toList with
  | [] => "[object HTMLElement]"
  | c :: cs => "[object HTML" ++ String.ofList (c :: cs.map Text.lowerChar) ++ "Element]"

end ElementRef

namespace Value

def isNullish : Value → Bool
  | null | undefined => true
  | _ => false

def isNumber : Value → Bool
  | number _ | single _ | int _ | uint _ => true
  | _ => false

def isScalar : Value → Bool
  | string _ | bytes _ | bool _ => true
  | v => v.isNumber

def kind : Value → String
  | string _ | bytes _ => "string"
  | bool _ => "boolean"
  | array _ => "array"
  | element _ => "element"
  | event _ => "event"
  | v => if v.isNumber then "number" else "object"

def boolText (b : Bool) : String :=
  if b then "true" else "false"

end Value

end PageBinding
