import PageBinding.Pattern.Basic
import PageBinding.Text.Raw

/-!
Selectors: patterns that pick elements out of a document.
-/
namespace PageBinding

inductive AttrTest
  | present
  | equal
  | notEqual
  | word
  | dash
  | start
  | tail
  | part
  deriving DecidableEq, Repr

inductive Combinator
  | descendant
  | child
  | adjacent
  | sibling
  deriving DecidableEq, Repr

inductive Scrutiny
  | itself
  | descendants
  | children
  deriving DecidableEq, Repr

inductive Condition
  | input
  | empty
  | root
  | link
  | enabled
  | disabled
  | checked
  /-- Conditions of a page that is being used: no element of a document at rest meets them. -/
  | never
  deriving DecidableEq, Repr

inductive Selector
  | tag (name : RawText)
  | id (name : RawText)
  | hasClass (name : RawText)
  | attr (key : RawText) (test : AttrTest) (value : RawText) (ignoreCase : Bool)
  | all (parts : List Selector)
  | nested (scrutiny : Scrutiny) (group : List Selector)
  | contains (own : Bool) (text : String)
  | attrMatching (key : RawText) (p : Pattern)
  | matching (own : Bool) (p : Pattern)
  | nth (a b : Int) (last ofType : Bool)
  | only (ofType : Bool)
  | condition (c : Condition)
  | lang (code : String)
  | combined (combinator : Combinator) (first second : Selector)
  deriving Repr, Inhabited

inductive SelectorError
  | invalidEscape
  | escapedLineEnd
  | identifierMissing (found : Option Char)
  | nameMissing
  | stringMissing
  | lineEndInString
  | openString
  | openAttribute
  | equalityMissing (found : String)
  | bracketMissing (found : Char)
  | unsupportedOperator (op : RawText)
  | emptyPseudo
  | unknownPseudoElement (name : String)
  | unknownPseudo (name : String)
  | parenMissing
  | closingParenMissing
  | unmatchedParen
  | openPseudo
  | integerMissing
  | integerTooLarge (digits : String)
  | oddOrEven (found : String)
  | openNth
  | badNth
  | selectorMissing
  | pseudoElement (name : String)
  | leftOver (selector : RawText) (bytes : Nat)
  | patternMissing
  | openPattern
  | badPattern (cause : PatternError)
  deriving DecidableEq, Repr

end PageBinding
