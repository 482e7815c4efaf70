import PageBinding.Text.Basic
import PageBinding.Text.Letter

/-!
The tokens of settings in blocks.

Settings in blocks can also be written in the form of JSON, which has tokens of its own. A problem
with the characters of a token does not end the reading: the last such problem is kept.
-/
namespace PageBinding.Settings.Hcl

structure Position where
  line : Nat := 0
  column : Nat := 0
  deriving DecidableEq, Repr, Inhabited

def Position.message (p : Position) : String :=
  if p.line = 0 then "-" else toString p.line ++ ":" ++ toString p.column

inductive TokenKind
  | illegal
  | stop
  | comment
  | name
  | integer
  | float
  | bool
  | null
  | text
  | heredoc
  | leftBracket
  | leftBrace
  | comma
  | period
  | colon
  | rightBracket
  | rightBrace
  | assign
  | plus
  | minus
  deriving DecidableEq, Repr, Inhabited

def TokenKind.message : TokenKind → String
  | illegal => "ILLEGAL"
  | stop => "EOF"
  | comment => "COMMENT"
  | name => "IDENT"
  | integer => "NUMBER"
  | float => "FLOAT"
  | bool => "BOOL"
  | null => "NULL"
  | text => "STRING"
  | heredoc => "HEREDOC"
  | leftBracket => "LBRACK"
  | leftBrace => "LBRACE"
  | comma => "COMMA"
  | period => "PERIOD"
  | colon => "COLON"
  | rightBracket => "RBRACK"
  | rightBrace => "RBRACE"
  | assign => "ASSIGN"
  | plus => "ADD"
  | minus => "SUB"

structure Token where
  kind : TokenKind
  position : Position
  text : List Char
  deriving DecidableEq, Repr, Inhabited

def Token.message (t : Token) : String :=
  t.position.message ++ " " ++ t.kind.message ++ " " ++ String.ofList t.text

inductive Fault
  | null
  | reserved
  | illegalChar
  | illegalShown (c : Char)
  | hexadecimal
  | octal
  | leadingZero
  | openText
  | badEscape
  | badComment
  | openComment
  | badHeredoc
  | openHeredoc
  | badAnchor
  | emptyAnchor
  deriving DecidableEq, Repr

def Fault.message : Fault → String
  | null => "unexpected null character (0x00)"
  | reserved => "unicode code point U+E123 used by internal library"
  | illegalChar => "illegal char"
  | illegalShown c => "illegal char: " ++ String.singleton c
  | hexadecimal => "illegal hexadecimal number"
  | octal => "illegal octal number"
  | leadingZero => "numbers cannot start with zero"
  | openText => "literal not terminated"
  | badEscape => "illegal char escape"
  | badComment => "expected '/' for comment"
  | openComment => "comment not terminated"
  | badHeredoc => "heredoc expected second '<', didn't see it"
  | openHeredoc => "heredoc not terminated"
  | badAnchor => "invalid characters in heredoc anchor"
  | emptyAnchor => "zero-length heredoc anchor"

structure Scanner where
  rest : List Char
  line : Nat := 1
  column : Nat := 0
  lineLength : Nat := 0
  fault : Option (Position × Fault) := none
  deriving Inhabited

namespace Scanner

def place (s : Scanner) : Position :=
  if 0 < s.column then ⟨s.line, s.column⟩
  else if 0 < s.lineLength then ⟨s.line - 1, s.lineLength⟩
  else ⟨1, 1⟩

def report (s : Scanner) (f : Fault) : Scanner :=
  { s with fault := some (s.place, f) }

def next (s : Scanner) : Option Char × Scanner :=
  match s.rest with
  | [] => (none, { s with column := s.column + 1 })
  | c :: rest =>
      let after := if c = '\n' then
          { s with rest, line := s.line + 1, column := 0, lineLength := s.column + 1 }
        else { s with rest, column := s.column + 1 }
      if c = '\x00' then (none, after.report .null)
      else if c = '\ue123' then (some '\ufffd', after.report .reserved)
      else (some c, after)

def peek (s : Scanner) : Option Char :=
  s.rest.head?

/-- Reads characters as long as they fit, and the end if it comes. The first character that does not
fit is left, but told. -/
def skipWhile (fits : Char → Bool) : (fuel : Nat) → Scanner → Option Char × Scanner
  | 0, s => (none, s)
  | fuel + 1, s =>
      match s.next with
      | (none, after) => (none, after)
      | (some c, after) => if fits c then skipWhile fits fuel after else (some c, s)

def skipAll (fits : Char → Bool) (s : Scanner) : Option Char × Scanner :=
  skipWhile fits (s.rest.length + 1) s

def backTo (s earlier : Scanner) : Scanner :=
  { earlier with fault := s.fault }

end Scanner

/-! ## Classes of characters -/

def isNameStart (c : Char) : Bool :=
  Text.isLetter c || c = '_'

def isNameChar (c : Char) : Bool :=
  isNameStart c || Text.isDigit c || c = '-' || c = '.'

def isAnchorChar (c : Char) : Bool :=
  isNameStart c || Text.isDigit c

def isGap (c : Char) : Bool :=
  c = ' ' || c = '\t' || c = '\n' || c = '\r'

def isDigitIn (base : Nat) (c : Char) : Bool :=
  (Text.hexValue? c).any (· < base)

def isDecimal (c : Char) : Bool :=
  isDigitIn 10 c

/-! ## Numbers -/

namespace Scanner

def isExponentMark (c : Char) : Bool :=
  c = 'e' || c = 'E'

/-- Reads what follows the mark of an exponent. A character that is no digit is read, too. -/
def exponent (s : Scanner) : Scanner :=
  let first := s.next
  let second := if first.1 = some '-' || first.1 = some '+' then first.2.next else first
  if second.1.any isDecimal then (second.2.skipAll isDecimal).2 else second.2

def pointed (s : Scanner) : Option Char × Scanner :=
  if s.peek.any isDecimal then s.skipAll isDecimal else (s.peek, s)

def fraction (s : Scanner) : Scanner :=
  let digits := s.pointed
  if digits.1.any isExponentMark then digits.2.next.2.exponent else digits.2

/-- Reads what follows the whole digits of a number: an exponent or a fraction. Whether a number
with an exponent is an integer depends on the form. -/
def afterDigits (powers : TokenKind) (s : Scanner) : TokenKind × Scanner :=
  match s.next with
  | (none, after) => (.integer, after)
  | (some c, after) =>
      if isExponentMark c then (powers, after.exponent)
      else if c = '.' then (.float, after.fraction)
      else (.integer, s)

def hexadecimal (s : Scanner) : Scanner :=
  let digits := s.skipAll (isDigitIn 16)
  if s.peek.any (isDigitIn 16) then digits.2
  else (s.next.2.report .hexadecimal).backTo digits.2

/-- Reads what follows a zero at the beginning of a number: the mark of the base sixteen, or further
digits, which are in the base eight unless a fraction or an exponent follows. -/
def afterZero (s : Scanner) : TokenKind × Scanner :=
  if s.peek = some 'x' || s.peek = some 'X' then (.integer, s.next.2.hexadecimal)
  else if s.peek.any isDecimal then
    let digits := s.rest.takeWhile isDecimal
    let strange := (digits.drop 1).any fun c => c = '8' || c = '9'
    match s.skipAll isDecimal with
    | (none, after) => (.integer, if strange then after.report .octal else after)
    | (some c, after) =>
        if strange && !(isExponentMark c || c = '.') then
          (.integer, (after.next.2.report .octal).backTo after)
        else after.afterDigits .integer
  else s.afterDigits .integer

def number (first : Char) (s : Scanner) : TokenKind × Scanner :=
  if first = '0' then s.afterZero else (s.skipAll isDecimal).2.afterDigits .integer

/-! ## Texts -/

def digits (base start : Nat) : (count : Nat) → (last : Option Char) → (before s : Scanner) →
    Scanner
  | 0, last, before, s => if last.isSome then s.backTo before else s
  | count + 1, last, before, s =>
      if last.any (isDigitIn base) then
        match s.next with
        | (none, after) => after.report .badEscape
        | (some c, after) => digits base start count (some c) s after
      else
        let found := s.report .badEscape
        if count + 1 ≠ start && last.isSome then found.backTo before else found

def escape (s : Scanner) : Scanner :=
  let coded (base count : Nat) (before : Scanner) : Scanner :=
    let first := before.next
    digits base count count first.1 before first.2
  match s.next with
  | (none, after) => after.report .badEscape
  | (some c, after) =>
      if ['a', 'b', 'f', 'n', 'r', 't', 'v', '\\', '"'].contains c then after
      else if isDigitIn 8 c then coded 8 3 s
      else if c = 'x' then coded 16 2 after
      else if c = 'u' then coded 16 4 after
      else if c = 'U' then coded 16 8 after
      else after.report .badEscape

/-- Reads a text after its opening quote. Where texts have lines, a part in braces after a dollar
sign may have quotes and line breaks; `braces` counts those that are open. -/
def text (inLines : Bool) : (fuel braces : Nat) → Scanner → Scanner
  | 0, _, s => s
  | fuel + 1, braces, s =>
      match s.next with
      | (none, after) => after.report .openText
      | (some c, after) =>
          let inside := inLines && 0 < braces
          if c = '\n' && !inside then after.report .openText
          else if c = '"' && !inside then after
          else
            let opens := braces = 0 && c = '$' && after.peek = some '\x7b'
            let after := if opens then after.next.2 else after
            let braces := if opens || (0 < braces && c = '\x7b') then braces + 1 else braces
            let braces := if c = '\x7d' then braces - 1 else braces
            text inLines fuel braces (if c = '\\' then after.escape else after)

/-! ## Comments -/

def closedComment : (fuel : Nat) → (last : Option Char) → Scanner → Scanner
  | 0, _, s => s
  | fuel + 1, last, s =>
      match last with
      | none => s.report .openComment
      | some c =>
          let next := s.next
          if c = '*' && next.1 = some '/' then next.2 else closedComment fuel next.1 next.2

def comment (first : Char) (s : Scanner) : Scanner :=
  if first = '/' && s.peek = some '*' then
    let inner := s.next.2.next
    closedComment (s.rest.length + 1) inner.1 inner.2
  else if first = '/' && s.peek ≠ some '/' then s.report .badComment
  else (s.skipAll (· ≠ '\n')).2

/-! ## Heredocs -/

def endsHeredoc (anchor line : List Char) : Bool :=
  let name := if anchor.head? = some '-' then anchor.drop 1 else anchor
  let isSpace (c : Char) : Bool := Text.oneOf "\t\n\x0b\x0c\r " c
  Text.byteLength anchor ≤ Text.byteLength line &&
    (Text.dropStart? name (line.dropWhile isSpace)).any fun rest => rest.all (· = '\r')

def heredocLines (anchor : List Char) : (fuel : Nat) → Scanner → Scanner
  | 0, s => s
  | fuel + 1, s =>
      match s.skipAll (· ≠ '\n') with
      | (none, after) => after.report .openHeredoc
      | (some _, after) =>
          let line := s.rest.take (s.rest.length - after.rest.length)
          if endsHeredoc anchor line then after.next.2 else heredocLines anchor fuel after.next.2

def heredoc (s : Scanner) : Scanner :=
  let second := s.next
  if second.1 ≠ some '<' then second.2.report .badHeredoc
  else
    let start := second.2
    let named := if start.peek = some '-' then start.next.2 else start
    match named.skipAll isAnchorChar with
    | (none, after) => after.report .openHeredoc
    | (some c, after) =>
        let anchor := start.rest.take (start.rest.length - after.rest.length)
        let after := after.next.2
        if c ≠ '\n' then after.report .badAnchor
        else if anchor.isEmpty || anchor = ['-'] then after.report .emptyAnchor
        else heredocLines anchor (s.rest.length + 1) after

/-! ## The next token -/

def first : (fuel : Nat) → Scanner → Option Char × Scanner
  | 0, s => s.next
  | fuel + 1, s =>
      match s.next with
      | (some c, after) => if isGap c then first fuel after else (some c, after)
      | r => r

def signs : List (Char × TokenKind) :=
  [('[', .leftBracket), (']', .rightBracket), ('\x7b', .leftBrace), ('\x7d', .rightBrace),
    (',', .comma)]

def isTruth (text : List Char) : Bool :=
  text = "true".toList || text = "false".toList

/-- Reads a number that starts with a point, after that. The mark of an exponent ends it. -/
def afterPoint (s : Scanner) : Scanner :=
  let digits := s.pointed
  if digits.1.any isExponentMark then digits.2.next.2 else digits.2

/-- Reads the rest of a token of settings in blocks, after its first character. The text is the one
that begins with that character. -/
def blockToken (c : Char) (text : List Char) (s : Scanner) : TokenKind × Scanner :=
  if isNameStart c then
    let after := (s.skipAll isNameChar).2
    let name := text.take (text.length - after.rest.length)
    (if isTruth name then .bool else .name, after)
  else if isDecimal c then s.number c
  else if c = '"' then (.text, s.text true (s.rest.length + 1) 0)
  else if c = '#' || c = '/' then (.comment, s.comment c)
  else if c = '.' then
    if s.peek.any isDecimal then (.float, s.afterPoint) else (.period, s)
  else if c = '<' then (.heredoc, s.heredoc)
  else if c = '=' then (.assign, s)
  else if c = '+' then (.plus, s)
  else if c = '-' then
    match s.next with
    | (some d, after) => if isDecimal d then after.number d else (.minus, s)
    | (none, _) => (.minus, s)
  else match signs.lookup c with
    | some kind => (kind, s)
    | none => (.illegal, s.report .illegalChar)

/-- Reads a number of the other form after its first digit. A zero has no integer after it, and is
not the last thing in a text. -/
def plainNumber (first : Char) (s : Scanner) : TokenKind × Scanner :=
  let read := (s.skipAll isDecimal).2.afterDigits .float
  let long := (s.line, s.column) ≠ (read.2.line, read.2.column)
  (read.1, if read.1 = .integer && first = '0' && long then read.2.report .leadingZero else read.2)

def jsonToken (c : Char) (text : List Char) (s : Scanner) : TokenKind × Scanner :=
  if isNameStart c then
    let after := (s.skipAll fun c => isNameChar c && c ≠ '.').2
    let name := text.take (text.length - after.rest.length)
    if isTruth name then (.bool, after)
    else if name = "null".toList then (.null, after)
    else (.illegal, after.report .illegalChar)
  else if isDecimal c then s.plainNumber c
  else if c = '"' then (.text, s.text false (s.rest.length + 1) 0)
  else if c = '.' then
    if s.peek.any isDecimal then (.float, s.afterPoint) else (.period, s)
  else if c = ':' then (.colon, s)
  else if c = '-' then
    match s.next with
    | (some d, after) =>
        if isDecimal d then after.plainNumber d else (.illegal, s.report .illegalChar)
    | (none, _) => (.illegal, s.report .illegalChar)
  else match signs.lookup c with
    | some kind => (kind, s)
    | none => (.illegal, s.report (.illegalShown c))

def token (json : Bool) (s : Scanner) : Token × Scanner :=
  let start := first (s.rest.length + 1) s
  let position := start.2.place
  match start.1 with
  | none => (⟨.stop, position, []⟩, start.2)
  | some c =>
      let text := s.rest.drop (s.rest.length - start.2.rest.length - 1)
      let read := if json then jsonToken c text start.2 else blockToken c text start.2
      (⟨read.1, position, text.take (text.length - read.2.rest.length)⟩, read.2)

end Scanner

end PageBinding.Settings.Hcl
