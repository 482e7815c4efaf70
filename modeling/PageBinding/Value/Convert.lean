import PageBinding.Value.Basic
import PageBinding.Number.Reading
import PageBinding.Text.Blank
import PageBinding.Text.Raw

/-!
Values as numbers, as texts and as conditions.
-/
namespace PageBinding.Value

/-- A text as a number: an empty text is zero, any other that is no number is not a number. -/
def numberOfText (s : String) : Float :=
  match Text.trimBlank s.toList with
  | [] => 0.0
  | cs =>
      match Number.read cs with
      | .ok x => x
      | .error _ => Number.nan

def toNumber : Value → Float
  | null => 0.0
  | undefined => Number.nan
  | bool b => if b then 1.0 else 0.0
  | string s => numberOfText s
  | number x => x
  | single x => Number.ofSingle x
  | int n => Float.ofInt n.toInt
  | uint n => Float.ofNat n.toNat
  | _ => Number.nan

def truthy : Value → Bool
  | null | undefined => false
  | bool b => b
  | string s => s != ""
  | v => if v.isNumber then v.toNumber != 0.0 && !v.toNumber.isNaN else true

def plainLimit : Float := 1e21

/-- A number as text: whole numbers below `10²¹` are written out, others may have an exponent. -/
def numberText (x : Float) : String :=
  if x.isNaN then "NaN"
  else if x == Number.infinity then "Infinity"
  else if x == Number.negativeInfinity then "-Infinity"
  else if x == Number.truncate x && -plainLimit < x && x < plainLimit then Number.plain x
  else Number.general x

def ofRaw : RawText → Value
  | .chars s => string s
  | .bytes bs _ => bytes bs

def ofBytes (bs : List UInt8) : Value :=
  ofRaw (.ofBytes bs)

mutual

def toText : Value → String
  | null => "null"
  | undefined => "undefined"
  | bool b => boolText b
  | string s => s
  | bytes bs => Text.ofBytes bs
  | number x => numberText x
  | single x => numberText (Number.ofSingle x)
  | int n => toString n.toInt
  | uint n => toString n.toInt64.toInt
  | array items => Text.joinStrings "," (itemTexts items)
  | object _ => "[object Object]"
  | table entries => (Data.table entries).shown
  | element e => e.className
  | event _ => "[object Object]"

def itemTexts : List Value → List String
  | [] => []
  | v :: vs => (if v.isNullish then "" else toText v) :: itemTexts vs

end

def inCharacters : Value → Value
  | bytes bs => string (Text.ofBytes bs)
  | v => v

mutual

def toBytes : Value → List UInt8
  | bytes bs => bs
  | array items => Text.join (Text.toBytes ",") (itemBytes items)
  | table entries => (Data.table entries).printed
  | v => Text.toBytes v.toText

def itemBytes : List Value → List (List UInt8)
  | [] => []
  | v :: vs => (if v.isNullish then [] else toBytes v) :: itemBytes vs

end

def keepsBytes : Value → Bool
  | bytes _ | array _ | table _ => true
  | _ => false

def toRaw (v : Value) : RawText :=
  if v.keepsBytes then .ofBytes v.toBytes else .chars v.toText

end PageBinding.Value
