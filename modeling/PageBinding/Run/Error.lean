import PageBinding.Run.Printed
import PageBinding.Value.Method
import PageBinding.Value.Operator

/-!
Why a run of a program fails, and how it can end without failing.
-/
namespace PageBinding

/-- How something ends that does not succeed: it fails, or it never comes back. Nothing can look at a
state after that; the one that stands beside `never` is the state before the write that is stuck. -/
inductive Halt (ε : Type)
  | failed (e : ε)
  | never (why : Stuck)
  deriving DecidableEq, Repr

inductive RunError
  /-- An element is used that a lookup did not find, in the whole document or in the bound
  element. -/
  | noElement (selector : RawText) (whole : Bool)
  | cannotRead (value : String) (member : RawText)
  | cannotSet (value member : String)
  | notAnElement (value : String)
  | cannotCreate (member value : String)
  | notAFunction (kind method : String)
  | argument (cause : Value.ArgumentError)
  | notDefined (name : String)
  | reading (path : String) (cause : StoreError)
  | writing (path : String) (cause : StoreError)
  | query (cause : QueryError)
  | readOnly (member owner : String)
  | unfilled
  | operator (cause : OperatorError)
  deriving DecidableEq, Repr

def RunError.message : RunError → String
  | noElement selector whole =>
      "selector " ++ selector.shown ++ " matched no element in " ++
        (if whole then "document" else "element")
  | cannotRead value member =>
      "type error: cannot read properties of " ++ value ++ " (reading " ++ member.shown ++ ")"
  | cannotSet value member =>
      "type error: cannot set properties of " ++ value ++ " (setting " ++ Text.shown member ++ ")"
  | notAnElement value => "type error: " ++ value ++ " is not an element"
  | cannotCreate member value =>
      "type error: cannot create property " ++ Text.shown member ++ " on " ++ value
  | notAFunction kind method => "type error: " ++ kind ++ "." ++ method ++ " is not a function"
  | argument .digits => "range error: toFixed() digits argument must be between 0 and 100"
  | notDefined name => name ++ " is not defined"
  | reading path cause => "getProperty " ++ Text.shown path ++ ": " ++ cause.message
  | writing path cause => "setProperty " ++ Text.shown path ++ ": " ++ cause.message
  | query cause => cause.message
  | readOnly member owner =>
      "cannot assign to read only property " ++ Text.shown member ++ " of " ++ owner
  | unfilled => "internal error: unfilled value placeholder"
  | operator (.unknownUnary s) => "unknown unary operator " ++ Text.shown s
  | operator (.unknownBinary s) => "unknown binary operator " ++ Text.shown s

end PageBinding
