import PageBinding.Settings.Hcl.Token
import PageBinding.Text.Bytes

/-!
What the tokens of settings in blocks stand for.
-/
namespace PageBinding.Settings.Hcl

def valueIn (base : Nat) (digits : List Char) : Nat :=
  digits.foldl (fun n c => base * n + (Text.hexValue? c).getD 0) 0

def escapes : List (Char × Char) :=
  [('a', '\x07'), ('b', '\x08'), ('f', '\x0c'), ('n', '\n'), ('r', '\r'), ('t', '\t'),
    ('v', '\x0b')]

/-- The bytes that the characters after a backslash stand for, and how many characters those are. A
code of two or three digits stands for a byte, a longer one for a character. -/
def escaped (c : Char) (rest : List Char) : List UInt8 × Nat :=
  let byte (base : Nat) (digits : List Char) := [UInt8.ofNat (valueIn base digits)]
  let char (c : Char) := Text.toBytes (String.singleton c)
  let coded (width : Nat) := (char (Text.charOfCode (valueIn 16 (rest.take width))), width + 1)
  if c = 'x' then (byte 16 (rest.take 2), 3)
  else if c = 'u' then coded 4
  else if c = 'U' then coded 8
  else if isDigitIn 8 c then (byte 8 (c :: rest.take 2), 3)
  else (char ((escapes.lookup c).getD c), 1)

/-- The bytes of a text between its quotes. Where texts have parts in braces after a dollar sign,
these are kept as they are; `braces` counts those that are open. -/
def unquoted (hasParts : Bool) : (fuel braces : Nat) → List Char → List UInt8
  | 0, _, _ => []
  | _, _, [] => []
  | fuel + 1, braces, c :: cs =>
      let kept (braces : Nat) : List UInt8 :=
        Text.toBytes (String.singleton c) ++ unquoted hasParts fuel braces cs
      if 0 < braces then
        kept (if c = '\x7b' then braces + 1 else if c = '\x7d' then braces - 1 else braces)
      else if hasParts && c = '$' && cs.head? = some '\x7b' then
        Text.toBytes "$\x7b" ++ unquoted hasParts fuel 1 (cs.drop 1)
      else match c, cs with
        | '\\', d :: rest =>
            let e := escaped d rest
            e.1 ++ unquoted hasParts fuel 0 (cs.drop e.2)
        | _, _ => kept 0

def quotedText (hasParts : Bool) (text : List Char) : String :=
  let inner := (text.drop 1).dropLast
  Text.ofBytes (unquoted hasParts (inner.length + 1) 0 inner)

/-- The text that a heredoc stands for. One with a dash loses the indentation of its last line, if
all its lines have that. -/
def heredocText (text : List Char) : String :=
  let mark := text.takeWhile (· ≠ '\n')
  let body := text.drop (mark.length + 1)
  let name := mark.length - 2
  let upTo (n : Nat) := body.take (body.length - n)
  let isBlank (c : Char) : Bool := c = ' ' || c = '\t'
  if text[2]? ≠ some '-' then String.ofList (upTo (name + 1))
  else
    let lines := Text.splitOn '\n' (upTo name)
    let indent := lines.getLast?.getD []
    if lines.all indent.isPrefixOf then
      let kept := lines.dropLast.map (·.drop indent.length)
      String.ofList (Text.join ['\n'] (kept ++ [[]]))
    else String.ofList ((upTo (name + 1)).reverse.dropWhile isBlank).reverse

inductive Literal
  | bool (b : Bool)
  | integer (text : String)
  | float (text : String)
  | text (s : String)
  | heredoc (s : String)
  deriving DecidableEq, Repr, Inhabited

def literal (json : Bool) (t : Token) : Literal :=
  let text := String.ofList t.text
  match t.kind with
  | .bool => .bool (text = "true")
  | .integer => .integer text
  | .float => .float text
  | .text => .text (quotedText (!json) t.text)
  | .heredoc => .heredoc (heredocText t.text)
  | _ => .text ""

end PageBinding.Settings.Hcl
