/-!
Log entries.
-/
namespace PageBinding.Log

inductive Level
  | debug
  | info
  | warn
  | error
  | dpanic
  | panic
  | fatal
  deriving DecidableEq, Repr, Inhabited

namespace Level

def all : List Level :=
  [debug, info, warn, error, dpanic, panic, fatal]

def name : Level → String
  | debug => "debug"
  | info => "info"
  | warn => "warn"
  | error => "error"
  | dpanic => "dpanic"
  | panic => "panic"
  | fatal => "fatal"

def rank : Level → Nat
  | debug => 0
  | info => 1
  | warn => 2
  | error => 3
  | dpanic => 4
  | panic => 5
  | fatal => 6

end Level

inductive FieldValue
  | text (s : String)
  | int (n : Int)
  | bool (b : Bool)
  | span (milliseconds : Int)
  deriving DecidableEq, Repr, Inhabited

structure Entry where
  level : Level
  message : String
  fields : List (String × FieldValue)
  deriving DecidableEq, Repr, Inhabited

end PageBinding.Log
