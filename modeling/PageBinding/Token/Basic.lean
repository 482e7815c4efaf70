import PageBinding.Text.Raw

/-!
The tokens of a binding text.
-/
namespace PageBinding

inductive Token.Kind
  | eof
  | error
  | assign
  | char
  | colon
  | comma
  | dot
  | identifier
  | leftBrack
  | leftParen
  | number
  | operator
  | question
  | rightBrack
  | rightParen
  | string
  deriving DecidableEq, Repr, Inhabited

namespace Token.Kind

def all : List Kind :=
  [eof, error, assign, char, colon, comma, dot, identifier, leftBrack, leftParen, number, operator,
    question, rightBrack, rightParen, string]

def name : Kind → String
  | eof => "EOF"
  | error => "Error"
  | assign => "Assign"
  | char => "Char"
  | colon => "Colon"
  | comma => "Comma"
  | dot => "Dot"
  | identifier => "Identifier"
  | leftBrack => "LeftBrack"
  | leftParen => "LeftParen"
  | number => "Number"
  | operator => "Operator"
  | question => "Question"
  | rightBrack => "RightBrack"
  | rightParen => "RightParen"
  | string => "String"

/-- The name of the kind with a given number; a number without a kind is shown as itself. -/
def nameOfNumber (n : Int) : String :=
  let known := if n < 0 then none else all[n.toNat]?
  match known with
  | some kind => kind.name
  | none => s!"Type({n})"

end Token.Kind

structure Token where
  kind : Token.Kind
  offset : Nat
  text : String
  deriving DecidableEq, Repr, Inhabited

namespace Token

def eofAt (offset : Nat) : Token := ⟨.eof, offset, "EOF"⟩

/-- A token as a line of a listing shows it: a text of more than ten bytes is cut to ten
characters. -/
def describe (t : Token) : String :=
  match t.kind with
  | .eof => "EOF"
  | .error => "error: " ++ t.text
  | kind =>
      if 10 < t.text.utf8ByteSize then
        kind.name ++ ": " ++ Text.shown (String.ofList (t.text.toList.take 10)) ++ "..."
      else kind.name ++ ": " ++ Text.shown t.text

/-- A token as it stands in its source. It has one character for each piece of the source. -/
def rawIn (source : RawText) (t : Token) : RawText :=
  match source with
  | .chars _ => t.text
  | .bytes bs _ =>
      .ofBytes (((Text.pieces (bs.drop t.offset)).take t.text.length).flatMap Text.pieceBytes)

def shown (source : RawText) (t : Token) : String :=
  if t.kind = .eof then "end of expression" else (t.rawIn source).shown

end Token

end PageBinding
