import PageBinding.Text.Basic

/-!
What can be wrong with the text of a data file, and where.
-/
namespace PageBinding.Yaml

inductive Problem
  | controlCharacter
  | badTokenStart
  | entryNotAllowed
  | keyNotAllowed
  | valueNotAllowed
  | missingColon
  | badAnchor
  | zeroIndent
  | badHeader
  | tabInIndent
  | documentInQuotes
  | endInQuotes
  | unknownEscape
  | badHexadecimal
  | badEscapeCode
  | tabBeforeText
  | badTagEnd
  | unclosedTag
  | badTagHandle
  | emptyTag
  | badTagEscape
  | noDirectiveName
  | badDirectiveName
  | unknownDirective
  | noVersion
  | longVersion
  | badVersion
  | noBlank
  | duplicateVersion
  | wrongVersion
  | duplicateTag
  | noDocumentStart
  | noContent
  | noEntry
  | noKey
  | noSequenceEnd
  | noMappingEnd
  | undefinedHandle
  | tooDeep
  | unknownAnchor (name : String)
  deriving DecidableEq, Repr, Inhabited

def Problem.message : Problem → String
  | controlCharacter => "control characters are not allowed"
  | badTokenStart => "found character that cannot start any token"
  | entryNotAllowed => "block sequence entries are not allowed in this context"
  | keyNotAllowed => "mapping keys are not allowed in this context"
  | valueNotAllowed => "mapping values are not allowed in this context"
  | missingColon => "could not find expected ':'"
  | badAnchor => "did not find expected alphabetic or numeric character"
  | zeroIndent => "found an indentation indicator equal to 0"
  | badHeader => "did not find expected comment or line break"
  | tabInIndent => "found a tab character where an indentation space is expected"
  | documentInQuotes => "found unexpected document indicator"
  | endInQuotes => "found unexpected end of stream"
  | unknownEscape => "found unknown escape character"
  | badHexadecimal => "did not find expected hexdecimal number"
  | badEscapeCode => "found invalid Unicode character escape code"
  | tabBeforeText => "found a tab character that violates indentation"
  | badTagEnd => "did not find expected whitespace or line break"
  | unclosedTag => "did not find the expected '>'"
  | badTagHandle => "did not find expected '!'"
  | emptyTag => "did not find expected tag URI"
  | badTagEscape => "did not find URI escaped octet"
  | noDirectiveName => "could not find expected directive name"
  | badDirectiveName => "found unexpected non-alphabetical character"
  | unknownDirective => "found unknown directive name"
  | noVersion => "did not find expected version number"
  | longVersion => "found extremely long version number"
  | badVersion => "did not find expected digit or '.' character"
  | noBlank => "did not find expected whitespace"
  | duplicateVersion => "found duplicate %YAML directive"
  | wrongVersion => "found incompatible YAML document"
  | duplicateTag => "found duplicate %TAG directive"
  | noDocumentStart => "did not find expected <document start>"
  | noContent => "did not find expected node content"
  | noEntry => "did not find expected '-' indicator"
  | noKey => "did not find expected key"
  | noSequenceEnd => "did not find expected ',' or ']'"
  | noMappingEnd => "did not find expected ',' or '\x7d'"
  | undefinedHandle => "found undefined tag handle"
  | tooDeep => "exceeded max depth of 10000"
  | unknownAnchor name => "unknown anchor '" ++ name ++ "' referenced"

structure Dialect where
  lookahead : Nat
  namesPlace : Bool
  wordBooleans : Bool
  /-- No key may stand in a mapping twice, and what a mapping writes itself is kept when it asks for
  the entries of others. Otherwise entries replace earlier ones, wherever they come from. -/
  uniqueKeys : Bool
  signedOctals : Bool
  flowQuestions : Bool
  deriving DecidableEq, Repr

def Dialect.data : Dialect := ⟨2, false, false, true, true, false⟩

def Dialect.settings : Dialect := ⟨0, true, true, false, false, true⟩

structure Finding where
  problem : Problem
  inText : Bool
  began : Nat
  current : Nat
  index : Nat
  deriving DecidableEq, Repr, Inhabited

structure SyntaxError where
  problem : Problem
  line : Nat
  deriving DecidableEq, Repr, Inhabited

def SyntaxError.message (e : SyntaxError) : String :=
  let place := if e.line = 0 then "" else "line " ++ toString e.line ++ ": "
  place ++ e.problem.message

/-- The line that messages name for a problem: the first of two that is not the top one, counted
from one where the characters are wrong. -/
def Finding.toError (d : Dialect) (f : Finding) : SyntaxError :=
  let step := if f.inText then 1 else 0
  let line :=
    if d.namesPlace then
      if f.current ≠ 0 then f.current + step else f.began
    else if f.began ≠ 0 then f.began + step
    else if f.current ≠ 0 then f.current + step
    else 0
  ⟨f.problem, line⟩

def Finding.ofTokens (problem : Problem) (began current : Nat) : Finding :=
  ⟨problem, false, began, current, 0⟩

end PageBinding.Yaml
