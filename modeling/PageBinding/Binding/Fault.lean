import PageBinding.Binding.Side
import PageBinding.Literal

/-!
Why a text is not a binding.
-/
namespace PageBinding

inductive Cause
  | lexical (message : String)
  | targetMissing
  | valueMissing
  | assignMissing
  | expected (what : String) (found : Token)
  | unexpectedAfter (found : Token) (what : String)
  | cannotAssign (found : Token)
  | reservedName
  | notAFunction (source : String)
  | argumentEnd (found : Token)
  | badNumber (text : String)
  | operandMissing
  | unexpected (found : Token)
  | misplacedThis
  | mixed (marker : String) (side : Side)
  | unknownPlaceholder (name : String)
  | unknownFunction (name : String)
  | badString (cause : Literal.UnquoteError) (text : String)
  | notAccessor (fn : String) (found : Token)
  | unbalancedParens (fn : String)
  | unbalancedBrackets (fn : String)
  | tooFewArguments (fn : String)
  | tooManyArguments (fn : String)
  | emptyArgument (number : Nat) (fn : String)
  | emptySelector (fn : String)
  | badSelector (fn : String)
  | badName (fn : String) (name : RawText)
  | notGlobals (found : Token)
  | noPlaceholder
  | tooDeep
  deriving DecidableEq, Repr

def reserved : String := "__value__"

def Cause.message (text : RawText) : Cause → String
  | lexical message => message
  | targetMissing => "missing assignment target before '='"
  | valueMissing => "missing value after '='"
  | assignMissing => "missing '=' in binding expression"
  | expected what found => "expected " ++ what ++ "; found " ++ found.shown text
  | unexpectedAfter found what => "unexpected " ++ found.shown text ++ " after " ++ what
  | cannotAssign found => "cannot assign to " ++ found.shown text
  | reservedName => reserved ++ " is a reserved name"
  | notAFunction source => source ++ " is not a function"
  | argumentEnd found => "expected ',' or ')' in argument list; found " ++ found.shown text
  | badNumber text => "bad number " ++ Text.shown text
  | operandMissing => "missing operand"
  | unexpected found => "unexpected " ++ found.shown text
  | misplacedThis => "this is only valid as a prop(...) selector"
  | mixed marker side =>
      "cannot mix " ++ marker ++ " with " ++ side.name ++ " accessors in one side"
  | unknownPlaceholder name => "unknown placeholder " ++ name
  | unknownFunction name => "unknown function " ++ name
  | badString cause text => cause.message ++ " in string " ++ text
  | notAccessor fn found => "assignment target must be " ++ fn ++ "(...); found " ++ found.shown text
  | unbalancedParens fn => "unbalanced parentheses in " ++ fn ++ "(...)"
  | unbalancedBrackets fn => "unbalanced brackets in " ++ fn ++ "(...)"
  | tooFewArguments fn => fn ++ "(...) needs a selector and a name"
  | tooManyArguments fn => "too many arguments to " ++ fn ++ "(...)"
  | emptyArgument number fn => "empty argument " ++ toString number ++ " to " ++ fn ++ "(...)"
  | emptySelector fn => "empty selector in " ++ fn ++ "(...)"
  | badSelector fn => "selector in " ++ fn ++ "(...) must be a quoted string or $element"
  | badName fn name => "bad " ++ fn ++ " name " ++ name.shown
  | notGlobals found => "assignment target must be $globals.path; found " ++ found.shown text
  | noPlaceholder => "internal error: assignment template has no value placeholder"
  | tooDeep => "expression too deep"

structure Fault where
  offset : Nat
  cause : Cause
  deriving DecidableEq, Repr

def Token.fault (t : Token) (cause : Cause) : Fault :=
  ⟨t.offset, cause⟩

structure BindingError where
  text : RawText
  fault : Fault
  deriving DecidableEq, Repr

namespace BindingError

def brief (e : BindingError) : String :=
  e.fault.cause.message e.text

def message (e : BindingError) : String :=
  "setvalue: " ++ e.text.shown ++ ":" ++ toString e.fault.offset ++ ": " ++ e.brief

end BindingError

end PageBinding
