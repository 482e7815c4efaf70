import PageBinding.Binding.Fault
import PageBinding.Text.Blank

/-!
The parts of a binding that address elements and data: accessors and paths. Each reader takes its
part off the head of a list of tokens.
-/
namespace PageBinding

inductive Locator
  | self
  /-- The first element that a selector matches, in the whole document or in the bound element. -/
  | find (selector : RawText) (whole : Bool)
  deriving DecidableEq, Repr

structure Accessor where
  element : Locator
  name : String
  deriving DecidableEq, Repr

namespace Binding

abbrev TokenReader (α : Type) := List Token → Except Fault (α × List Token)

def nextToken (stop : Nat) (tokens : List Token) : Token :=
  tokens.headD (.eofAt stop)

/-! ## Paths -/

def segment (t : Token) : Except Fault String :=
  if t.text = reserved then .error (t.fault .reservedName) else .ok t.text

def afterDot : String := "property name after '.'"

def pathTail (stop : Nat) : TokenReader (List String)
  | dot :: t :: rest =>
      if dot.kind = .dot then
        if t.kind = .identifier then
          match segment t with
          | .error e => .error e
          | .ok name =>
              match pathTail stop rest with
              | .error e => .error e
              | .ok (names, rest) => .ok (name :: names, rest)
        else .error (t.fault (.expected afterDot t))
      else .ok ([], dot :: t :: rest)
  | [t] =>
      if t.kind = .dot then
        .error ((Token.eofAt stop).fault (.expected afterDot (Token.eofAt stop)))
      else .ok ([], [t])
  | [] => .ok ([], [])

def path (stop : Nat) : TokenReader (List String)
  | [] => .error ((Token.eofAt stop).fault (.expected "property name" (Token.eofAt stop)))
  | t :: rest =>
      if t.kind = .identifier then
        match segment t with
        | .error e => .error e
        | .ok name =>
            match pathTail stop rest with
            | .error e => .error e
            | .ok (names, rest) => .ok (name :: names, rest)
      else .error (t.fault (.expected "property name" t))

def joinPath (names : List String) : String :=
  Text.joinStrings "." names

/-- A path of the global data after its marker: empty if there is none. The last name before a
parenthesis is a method, and is left. -/
def globalPath (stop : Nat) : TokenReader String
  | dot :: rest =>
      if dot.kind = .dot then
        if (nextToken stop rest).kind = .identifier then
          match path stop rest with
          | .error e => .error e
          | .ok (names, after) =>
              if (nextToken stop after).kind = .leftParen && 1 < names.length then
                .ok (joinPath names.dropLast, rest.drop (2 * names.length - 3))
              else .ok (joinPath names, after)
        else .ok ("", rest)
      else .ok ("", dot :: rest)
  | [] => .ok ("", [])

/-! ## Accessors -/

def isNameLetter (c : Char) : Bool :=
  c.isAlpha || c = '_'

def isAttrName (s : String) : Bool :=
  match s.toList with
  | [] => false
  | c :: cs =>
      (isNameLetter c || c = ':') &&
        cs.all fun c => isNameLetter c || c.isDigit || c = ':' || c = '.' || c = '-'

def isPropSegment : List Char → Bool
  | [] => false
  | c :: cs =>
      (isNameLetter c || c = '$') && cs.all fun c => isNameLetter c || c.isDigit || c = '$'

def isPropName (s : String) : Bool :=
  (Text.splitOn '.' s.toList).all isPropSegment

/-- The arguments up to the closing parenthesis, as tokens. `depth` counts the brackets open inside
the argument, and `current` holds its tokens so far, last first. -/
def arguments (fn : String) (start : Token) (depth : Nat) (current : List Token) :
    TokenReader (List (List Token))
  | [] => .error (start.fault (.unbalancedParens fn))
  | t :: rest =>
      if t.kind = .leftParen || t.kind = .leftBrack then
        arguments fn start (depth + 1) (t :: current) rest
      else if t.kind = .rightParen || t.kind = .rightBrack then
        if 0 < depth then arguments fn start (depth - 1) (t :: current) rest
        else if t.kind = .rightBrack then .error (t.fault (.unbalancedBrackets fn))
        else .ok ([current.reverse], rest)
      else if t.kind = .comma && depth = 0 then
        match arguments fn start 0 [] rest with
        | .error e => .error e
        | .ok (args, rest) => .ok (current.reverse :: args, rest)
      else arguments fn start depth (t :: current) rest

def firstEmpty : (number : Nat) → List (List Token) → Option Nat
  | _, [] => none
  | number, arg :: args => if arg.isEmpty then some number else firstEmpty (number + 1) args

def spanned (text : RawText) (tokens : List Token) : RawText :=
  match tokens.head?, tokens.getLast? with
  | some first, some last => text.slice first.offset (last.offset + (last.rawIn text).size)
  | _, _ => ""

def unquoted (text : RawText) (t : Token) : Except Fault RawText :=
  match Literal.unquoteRaw (t.rawIn text) with
  | .ok s => .ok s
  | .error cause => .error (t.fault (.badString cause t.text))

def locator (text : RawText) (fn : String) (arg : List Token) (whole : Bool) :
    Except Fault Locator :=
  match arg with
  | [t] =>
      if t.kind = .string then
        match unquoted text t with
        | .error e => .error e
        | .ok selector =>
            if Text.trimBlank selector.toText.toList = [] then
              .error (t.fault (.emptySelector fn))
            else .ok (.find selector whole)
      else if t.kind = .identifier && (t.text = "$element" || t.text = "this" && fn = "prop") then
        .ok .self
      else .error (t.fault (.badSelector fn))
  | arg => .error ((arg.headD (.eofAt 0)).fault (.badSelector fn))

def accessorName (text : RawText) (fn : String) (arg : List Token) : Except Fault String :=
  let first := arg.headD (.eofAt 0)
  let name : Except Fault RawText := match arg with
    | [t] => if t.kind = .string then unquoted text t else .ok (spanned text arg)
    | arg => .ok (spanned text arg)
  match name with
  | .error e => .error e
  | .ok raw =>
      -- a mark for a byte is in no name, so only names made of characters are valid
      let name := raw.toText
      let valid := if fn = "prop" then isPropName name else isAttrName name
      if !valid then .error (first.fault (.badName fn raw))
      else if (Text.splitOn '.' name.toList).contains reserved.toList then
        .error (first.fault .reservedName)
      else .ok name

/-- Whether the third argument of an accessor asks for the whole document: its first word is
`true`. -/
def asksForDocument (text : RawText) (arg : List Token) : Bool :=
  (Text.words (spanned text arg).toText.toList).head? = some "true".toList

def accessorOf (text : RawText) (fn : String) (start : Token) (args : List (List Token)) :
    Except Fault Accessor :=
  if args.length < 2 then .error (start.fault (.tooFewArguments fn))
  else if 3 < args.length then .error (start.fault (.tooManyArguments fn))
  else
    match firstEmpty 1 args with
    | some number => .error (start.fault (.emptyArgument number fn))
    | none =>
        let whole := match args[2]? with
          | some arg => asksForDocument text arg
          | none => false
        match locator text fn (args[0]?.getD []) whole with
        | .error e => .error e
        | .ok element =>
            match accessorName text fn (args[1]?.getD []) with
            | .error e => .error e
            | .ok name => .ok ⟨element, name⟩

def accessor (text : RawText) (fn : String) (stop : Nat) : TokenReader Accessor
  | [] => .error ((Token.eofAt stop).fault (.notAccessor fn (Token.eofAt stop)))
  | start :: rest =>
      if start.kind = .identifier && start.text = fn then
        let paren := nextToken stop rest
        if paren.kind = .leftParen then
          match arguments fn start 0 [] (rest.drop 1) with
          | .error e => .error e
          | .ok (args, rest) =>
              match accessorOf text fn start args with
              | .error e => .error e
              | .ok a => .ok (a, rest)
        else .error (paren.fault (.expected ("'(' after " ++ fn) paren))
      else .error (start.fault (.notAccessor fn start))

end Binding

end PageBinding
