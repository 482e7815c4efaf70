import PageBinding.Settings.Hcl.Literal

/-!
The tree of settings in blocks: items with keys, whose values are literals, lists and objects; and
how such a tree is read from tokens.
-/
namespace PageBinding.Settings.Hcl

structure Key where
  name : String
  position : Position := {}
  deriving DecidableEq, Repr, Inhabited

inductive Node
  | literal (position : Position) (value : Literal)
  | list (position : Position) (items : List Node)
  | object (position : Position) (items : List (List Key × Node))
  deriving Repr, Inhabited

abbrev Item := List Key × Node

def Node.kindName : Node → String
  | literal .. => "*ast.LiteralType"
  | list .. => "*ast.ListType"
  | object .. => "*ast.ObjectType"

def Node.position : Node → Position
  | literal p _ | list p _ | object p _ => p

/-! ## Problems -/

inductive TreeError
  | located (position : Position) (e : TreeError)
  | jsonFault (position : Position) (f : Fault)
  | fault (f : Fault)
  | nestedObject (found : TokenKind)
  | noKeys
  | expectedKey (found : TokenKind)
  | expectedItem (found : TokenKind)
  | expectedText (found : TokenKind)
  | illegal
  | unfinished (keys : List String)
  | unknownToken (found : Token)
  | unknownValue (found : Token)
  | openObject (found : TokenKind)
  | missingComma (found : TokenKind)
  | badElement (found : TokenKind)
  | inObject (e : TreeError)
  | inList (e : TreeError)
  deriving DecidableEq, Repr

def TreeError.message : TreeError → String
  | located p e => "At " ++ p.message ++ ": " ++ e.message
  | jsonFault p f => p.message ++ ": " ++ f.message
  | fault f => f.message
  | nestedObject found => "nested object expected: LBRACE got: " ++ found.message
  | noKeys => "no object keys found!"
  | expectedKey found => "expected: IDENT | STRING got: " ++ found.message
  | expectedItem found => "expected: IDENT | STRING | ASSIGN | LBRACE got: " ++ found.message
  | expectedText found => "expected: STRING got: " ++ found.message
  | illegal => "illegal character"
  | unfinished keys =>
      "key '" ++ String.intercalate " " keys
        ++ "' expected start of object ('\x7b') or assignment ('=')"
  | unknownToken found => "Unknown token: " ++ found.message
  | unknownValue found => "Expected object value, got unknown token: " ++ found.message
  | openObject found => "object expected closing RBRACE got: " ++ found.message
  | missingComma found =>
      "error parsing list, expected comma or list end, got: " ++ found.message
  | badElement found => "unexpected token while parsing list: " ++ found.message
  | inObject e => "error while trying to parse object within list: " ++ e.message
  | inList e => "error while trying to parse list within list: " ++ e.message

/-! ## Reading -/

/-- A text as it is read: what is left, and the current token, which may have to be read again. -/
structure Reader where
  scanner : Scanner
  token : Token := ⟨.stop, {}, []⟩
  again : Bool := false
  deriving Inhabited

inductive Stop
  | ended
  | failed (e : TreeError)
  deriving DecidableEq, Repr

abbrev Reading := EStateM Stop Reader

namespace Reading

def nextToken (json : Bool) : (fuel : Nat) → Scanner → Token × Scanner
  | 0, s => s.token json
  | fuel + 1, s =>
      let r := s.token json
      if r.1.kind = .comment then nextToken json fuel r.2 else r

def scan (json : Bool) : Reading Token := do
  let r ← get
  if r.again then
    set { r with again := false }
    return r.token
  let next := nextToken json r.scanner.rest.length r.scanner
  set { r with scanner := next.2, token := next.1 }
  return next.1

def unscan : Reading Unit :=
  modify fun r => { r with again := true }

def attempt {α : Type} (x : Reading α) : Reading (Except Stop α) :=
  tryCatch (Except.ok <$> x) fun e => pure (.error e)

def fail {α : Type} (e : TreeError) : Reading α :=
  throw (.failed e)

/-- The items that come of reading a text. Any fault in what has been read makes it fail. -/
def run (x : Reading (List Item)) (text : List Char) (faulty : Position → Fault → TreeError) :
    Except TreeError (List Item) :=
  let result : Except TreeError (List Item) × Reader :=
    match EStateM.run x { scanner := { rest := text } } with
    | .ok found r => (.ok found, r)
    | .error .ended r => (.ok [], r)
    | .error (.failed e) r => (.error e, r)
  match result.2.scanner.fault with
  | some (p, f) => .error (faulty p f)
  | none => result.1

end Reading

end PageBinding.Settings.Hcl
