import PageBinding.Number.Integer
import PageBinding.Value.Data
import PageBinding.Yaml.Problem

/-!
What the text of a plain scalar stands for: null, a truth value, a number, or the text itself.
-/
namespace PageBinding.Yaml

inductive ScalarKind
  | null
  | bool
  | int
  | float
  | time
  | string
  deriving DecidableEq, Repr, Inhabited

def ScalarKind.tag : ScalarKind → String
  | null => "!!null"
  | bool => "!!bool"
  | int => "!!int"
  | float => "!!float"
  | time => "!!timestamp"
  | string => "!!str"

def ScalarKind.ofTag? (tag : String) : Option ScalarKind :=
  [null, bool, int, float, time, string].find? fun kind => kind.tag = tag

def named? (text : String) : Option (ScalarKind × Data) :=
  if ["true", "True", "TRUE"].contains text then some (.bool, .bool true)
  else if ["false", "False", "FALSE"].contains text then some (.bool, .bool false)
  else if ["", "~", "null", "Null", "NULL"].contains text then some (.null, .null)
  else if [".nan", ".NaN", ".NAN"].contains text then some (.float, .number Number.nan)
  else if [".inf", ".Inf", ".INF", "+.inf", "+.Inf", "+.INF"].contains text then
    some (.float, .number Number.infinity)
  else if ["-.inf", "-.Inf", "-.INF"].contains text then
    some (.float, .number Number.negativeInfinity)
  else none

/-! ## Times -/

def shortNumber? (low high : Nat) (cs : List Char) : Option (Nat × List Char) :=
  let digits := (cs.take 2).takeWhile Char.isDigit
  let n := Text.decimalValue digits
  if digits.isEmpty || n < low || high < n then none else some (n, cs.drop digits.length)

def daysIn (year month : Nat) : Nat :=
  if month = 2 then
    if (year % 4 = 0 && year % 100 ≠ 0) || year % 400 = 0 then 29 else 28
  else if [4, 6, 9, 11].contains month then 30
  else 31

def after? (c : Char) (cs : List Char) : Option (List Char) :=
  match cs with
  | x :: rest => if x = c then some rest else none
  | [] => none

def date? (cs : List Char) : Option (List Char) := do
  let year := cs.takeWhile Char.isDigit
  if year.length ≠ 4 then none
  let cs ← after? '-' (cs.drop 4)
  let (month, cs) ← shortNumber? 1 12 cs
  let cs ← after? '-' cs
  let (_, cs) ← shortNumber? 1 (daysIn (Text.decimalValue year) month) cs
  return cs

def clock? (cs : List Char) : Option (List Char) := do
  let (_, cs) ← shortNumber? 0 23 cs
  let cs ← after? ':' cs
  let (_, cs) ← shortNumber? 0 59 cs
  let cs ← after? ':' cs
  let (_, cs) ← shortNumber? 0 59 cs
  match cs with
  | point :: digit :: _ =>
      if (point = '.' || point = ',') && digit.isDigit then
        return (cs.drop 1).dropWhile Char.isDigit
      else return cs
  | _ => return cs

def isZone (cs : List Char) : Bool :=
  match cs with
  | ['Z'] => true
  | [sign, a, b, ':', c, d] =>
      (sign = '+' || sign = '-') && [a, b, c, d].all Char.isDigit &&
        Text.decimalValue [a, b] ≤ 24 && Text.decimalValue [c, d] ≤ 60
  | _ => false

def isTime (cs : List Char) : Bool :=
  match date? cs with
  | none => false
  | some [] => true
  | some (mark :: rest) =>
      match clock? rest with
      | none => false
      | some zone =>
          if mark = ' ' then zone.isEmpty
          else (mark = 'T' || mark = 't') && isZone zone

/-! ## Numbers -/

def isDecimal (cs : List Char) : Bool :=
  let cs := if cs.head?.any (fun c => c = '+' || c = '-') then cs.drop 1 else cs
  let whole := cs.takeWhile Char.isDigit
  let rest := cs.drop whole.length
  let (fraction, rest) := match rest with
    | '.' :: rest => (some (rest.takeWhile Char.isDigit), rest.dropWhile Char.isDigit)
    | rest => (none, rest)
  let body := if whole.isEmpty then (fraction.any fun f => !f.isEmpty) else true
  let exponent := match rest with
    | [] => true
    | mark :: digits =>
        let digits := if digits.head?.any (fun c => c = '+' || c = '-') then digits.drop 1
          else digits
        (mark = 'e' || mark = 'E') && !digits.isEmpty && digits.all Char.isDigit
  body && exponent

def integer? (base : Nat) (cs : List Char) : Option Data :=
  match Number.readIntIn base cs, Number.readNatIn base cs with
  | .ok n, _ => some (.int n)
  | .error _, .ok n => some (.uint (UInt64.ofNat n))
  | .error _, .error _ => none

def markedInteger? (d : Dialect) (cs : List Char) : Option Data :=
  let rest? (mark : String) := Text.dropStart? mark.toList cs
  let bases := if d.signedOctals then [('b', 2), ('o', 8)] else [('b', 2)]
  bases.findSome? fun (letter, base) =>
    match rest? (String.ofList ['0', letter]), rest? (String.ofList ['-', '0', letter]) with
    | some digits, _ => integer? base digits
    | none, some digits => integer? base ('-' :: digits)
    | none, none => none

def number? (d : Dialect) (cs : List Char) : Option (ScalarKind × Data) :=
  match Number.readInt cs, Number.readUnsigned cs with
  | .ok n, _ => some (.int, .int n)
  | _, .ok n => some (.int, .uint n)
  | .error _, .error _ =>
      let decimal := if isDecimal cs then (Number.read cs).toOption else none
      match decimal with
      | some x => some (.float, .number x)
      | none => (markedInteger? d cs).map fun n => (.int, n)

/-- What a text that begins with a digit, a sign or a point stands for, if not for itself. -/
def numeric? (d : Dialect) (cs : List Char) : Option (ScalarKind × Data) :=
  match cs with
  | '.' :: _ =>
      match Number.read cs with
      | .ok x => some (.float, .number x)
      | .error _ => none
  | first :: _ =>
      if first.isDigit || first = '+' || first = '-' then
        if isTime cs then some (.time, .string (String.ofList cs))
        else number? d (cs.filter (· != '_'))
      else none
  | [] => none

def wordBoolean? (text : String) : Option (ScalarKind × Data) :=
  if ["y", "Y", "yes", "Yes", "YES", "on", "On", "ON"].contains text then
    some (.bool, .bool true)
  else if ["n", "N", "no", "No", "NO", "off", "Off", "OFF"].contains text then
    some (.bool, .bool false)
  else none

def resolve (d : Dialect) (text : String) : ScalarKind × Data :=
  let word := if d.wordBooleans then wordBoolean? text else none
  (((named? text).or word).or (numeric? d text.toList)).getD (.string, .string text)

end PageBinding.Yaml
