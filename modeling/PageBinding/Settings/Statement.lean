import PageBinding.Number.Integer
import PageBinding.Text.Blank
import PageBinding.Value.Convert

/-!
What is said about a setting, and how it is understood.
-/
namespace PageBinding.Settings

inductive Statement
  | data (d : Data)
  | time (text : String)
  deriving Inhabited

/-- The integer that data is taken for: numbers lose their fraction, and zero stands for whatever
is not a number. -/
def toInt : Data → Int
  | .int n => n.toInt
  | .uint n => (Int64.ofInt n.toNat).toInt
  | .number x =>
      match Number.toInt? x with
      | some n => if -0x8000000000000000 ≤ n && n < 0x8000000000000000 then n else -0x8000000000000000
      | none => -0x8000000000000000
  | .string s =>
      match Number.readInt s.toList with
      | .ok n => n.toInt
      | .error _ => 0
  | .bool b => if b then 1 else 0
  | _ => 0

def toText? : Data → Option String
  | .string s => some s
  | .bool b => some (if b then "true" else "false")
  | .number x => some (Number.plain x)
  | .int n => some (toString n.toInt)
  | .uint n => some (toString (Int64.ofInt n.toNat).toInt)
  | _ => none

namespace Statement

def isPresent : Statement → Bool
  | data .null => false
  | _ => true

def int : Statement → Int
  | data d => toInt d
  | time _ => 0

def text : Statement → String
  | data d => (toText? d).getD ""
  | time s => s

def texts : Statement → List String
  | data (.list items) => items.map fun d => (toText? d).getD ""
  | data (.string s) => (Text.words s.toList).map String.ofList
  | data d => (toText? d).toList
  | time s => [s]

end Statement

end PageBinding.Settings
