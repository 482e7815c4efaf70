import PageBinding.Number.Reading
import PageBinding.Text.Bytes
import PageBinding.Text.Category
import PageBinding.Text.Letter
import PageBinding.Text.Quoted
import PageBinding.Text.Unfilled

/-!
The tokens of TOML. Something that is no token is the last one, and tells what is wrong.
-/
namespace PageBinding.Settings.Toml

inductive TokenKind
  | key (text : String)
  | equal
  | leftBracket
  | rightBracket
  | leftBrace
  | rightBrace
  | comma
  | doubleLeft
  | doubleRight
  | tableName (text : String)
  | string (text : String)
  | integer (text : String)
  | float (text : String)
  | infinity (text : String)
  | nan (text : String)
  | bool (b : Bool)
  | time (text : String)
  | bad (message : String)
  | stop
  deriving DecidableEq, Repr, Inhabited

structure Position where
  line : Nat := 0
  column : Nat := 0
  deriving DecidableEq, Repr, Inhabited

structure Token where
  kind : TokenKind
  position : Position
  deriving DecidableEq, Repr, Inhabited

def Token.message (t : Token) : String :=
  match t.kind with
  | .stop => "EOF"
  | .bad message => message
  | .key s | .tableName s | .string s | .integer s | .float s | .infinity s | .nan s | .time s =>
      Text.shown s
  | .equal => "\"=\""
  | .leftBracket => "\"[\""
  | .rightBracket => "\"]\""
  | .leftBrace => "\"\x7b\""
  | .rightBrace => "\"\x7d\""
  | .comma => "\",\""
  | .doubleLeft => "\"[[\""
  | .doubleRight => "\"]]\""
  | .bool b => if b then "\"true\"" else "\"false\""

structure Spot where
  rest : List Char
  line : Nat := 1
  column : Nat := 1
  deriving Inhabited

namespace Spot

def next (s : Spot) : Spot :=
  match s.rest with
  | [] => s
  | c :: rest => if c = '\n' then ⟨rest, s.line + 1, 1⟩ else ⟨rest, s.line, s.column + 1⟩

def skip (s : Spot) : Nat → Spot
  | 0 => s
  | n + 1 => s.next.skip n

def token (s : Spot) (kind : TokenKind) : Token :=
  ⟨kind, s.line, s.column⟩

def follows (s : Spot) (text : String) : Bool :=
  text.toList.isPrefixOf s.rest

end Spot

/-! ## Characters -/

def isDigit (c : Char) : Bool :=
  if c.toNat < 0x80 then c.isDigit else Text.Category.has "N" c.toNat

def isBare (c : Char) : Bool :=
  Text.isLetter c || c = '_' || c = '-' || isDigit c

def isGap (c : Char) : Bool :=
  c = ' ' || c = '\t'

/-! ## Texts -/

def escapes : List (Char × Char) :=
  [('"', '"'), ('n', '\n'), ('b', '\x08'), ('f', '\x0c'), ('/', '/'), ('t', '\t'), ('r', '\r'),
    ('\\', '\\')]

def coded (mark : Char) (width : Nat) (cs : List Char) : Except String Char :=
  let isHex (c : Char) : Bool := isDigit c || (Text.hexValue? c).isSome
  let digits := cs.take width
  if digits.length < width || !digits.all isHex then .error "unfinished unicode escape"
  else if !digits.all fun c => (Text.hexValue? c).isSome then
    .error ("invalid unicode escape: \\" ++ String.ofList (mark :: digits))
  else .ok (Text.charOfCode (Number.hexadecimalValue digits))

def basicText (terminator : String) (inLines : Bool) :
    (fuel : Nat) → List Char → Spot → Except String (String × Spot)
  | 0, _, _ => .error "unclosed string"
  | fuel + 1, text, s =>
      if s.follows terminator then .ok (String.ofList text.reverse, s)
      else
        match s.rest with
        | [] => .error "unclosed string"
        | '\\' :: [] => .error "invalid escape sequence: \\\ufffd"
        | '\\' :: c :: rest =>
            if c = '\r' || c = '\n' || isGap c then
              let blank := (c :: rest).takeWhile fun c => c = '\r' || c = '\n' || isGap c
              basicText terminator inLines fuel text (s.next.skip blank.length)
            else if c = 'u' || c = 'U' then
              let width := if c = 'u' then 4 else 8
              match coded c width rest with
              | .ok x => basicText terminator inLines fuel (x :: text) (s.skip (2 + width))
              | .error e => .error e
            else match escapes.lookup c with
              | some x => basicText terminator inLines fuel (x :: text) (s.skip 2)
              | none =>
                  .error (Text.unfilled ("invalid escape sequence: \\" ++ String.singleton c))
        | c :: _ =>
            if c.toNat < 0x20 && !(inLines && (c = '\n' || c = '\r')) then
              .error ("unescaped control character U+"
                ++ String.ofList ((Text.hex 4 c.toNat).map Char.toUpper))
            else basicText terminator inLines fuel (c :: text) s.next

def literalText (terminator : String) :
    (fuel : Nat) → List Char → Spot → Except String (String × Spot)
  | 0, _, _ => .error "unclosed string"
  | fuel + 1, text, s =>
      if s.follows terminator then .ok (String.ofList text.reverse, s)
      else
        match s.rest with
        | [] => .error "unclosed string"
        | c :: _ => literalText terminator fuel (c :: text) s.next

def skipBreak (s : Spot) : Spot :=
  if s.follows "\r\n" then s.skip 2 else if s.follows "\n" then s.next else s

def quoted (s : Spot) : Token × Option Spot :=
  let fuel := s.rest.length + 1
  let finish (start : Spot) (width : Nat) (r : Except String (String × Spot)) :
      Token × Option Spot :=
    match r with
    | .ok (text, after) => (start.token (.string text), some (after.skip width))
    | .error e => (start.token (.bad e), none)
  if s.follows "\"\"\"" then
    let start := skipBreak (s.skip 3)
    finish start 3 (basicText "\"\"\"" true fuel [] start)
  else if s.follows "'''" then
    let start := skipBreak (s.skip 3)
    finish start 3 (literalText "'''" fuel [] start)
  else if s.follows "\"" then finish s.next 1 (basicText "\"" false fuel [] s.next)
  else finish s.next 1 (literalText "'" fuel [] s.next)

/-! ## Names -/

def name : (fuel : Nat) → List Char → Spot → Except String (String × Spot)
  | 0, text, s => .ok (String.ofList text.reverse, s)
  | fuel + 1, text, s =>
      let inner (r : Except String (String × Spot)) : Except String (String × Spot) := do
        let (part, after) ← r
        name fuel (part.toList.reverse ++ text) after.next
      match s.rest with
      | [] => .ok (String.ofList text.reverse, s)
      | c :: rest =>
          if c = '=' || isGap c then .ok (String.ofList text.reverse, s)
          else if c = '"' then inner (basicText "\"" true (rest.length + 1) [] s.next)
          else if c = '\'' then inner (literalText "'" (rest.length + 1) [] s.next)
          else if c = '\n' then .error "keys cannot contain new lines"
          else if isBare c then name fuel (c :: text) s.next
          else .error ("keys cannot contain " ++ String.singleton c ++ " character")

def tableName (s : Spot) : List Token × Option Spot :=
  let text := s.rest.takeWhile fun c => c ≠ ']' && c ≠ '['
  let after := s.skip text.length
  match after.rest with
  | ']' :: _ =>
      let named := if text.isEmpty then [] else [s.token (.tableName (String.ofList text))]
      (named ++ [after.token .rightBracket], some after.next)
  | '[' :: _ => ([s.token (.bad "table key cannot contain ']'")], none)
  | _ => ([s.token (.bad "unclosed table key")], none)

/-- The name of several tables, up to its two closing brackets. A single bracket divides it. The
text from `start` on has been read. -/
def tablesName : (fuel : Nat) → (start s : Spot) → List Token × Option Spot
  | 0, _, _ => ([], none)
  | fuel + 1, start, s =>
      match s.rest with
      | [] => ([start.token (.bad "unclosed table array key")], none)
      | '[' :: _ => ([start.token (.bad "table array key cannot contain ']'")], none)
      | ']' :: rest =>
          let text := start.rest.take (start.rest.length - s.rest.length)
          let named := if text.isEmpty then [] else [start.token (.tableName (String.ofList text))]
          let start := if text.isEmpty then start else s
          if rest.head? = some ']' then (named ++ [start.token .doubleRight], some (s.skip 2))
          else
            let more := tablesName fuel start s.next
            (named ++ more.1, more.2)
      | _ => tablesName fuel start s.next

/-! ## Numbers and times -/

def basedDigits (mark : Char) (cs : List Char) : List Char :=
  let base := if mark = 'x' then 16 else if mark = 'o' then 8 else 2
  cs.takeWhile fun c => c = '_' || (Text.hexValue? c).any (· < base)

def numberChars : (fuel : Nat) → (point digit power : Bool) → List Char →
    Except String (List Char × Bool)
  | 0, point, _, power, _ => .ok ([], point || power)
  | fuel + 1, point, digit, power, cs =>
      let more (n : Nat) (r : Except String (List Char × Bool)) :=
        r.map fun r => (cs.take n ++ r.1, r.2)
      match cs with
      | '.' :: rest =>
          if point then .error "cannot have two dots in one float"
          else if !(rest.head?.any isDigit) then .error "float cannot end with a dot"
          else if !digit then .error "cannot start float with a dot"
          else more 1 (numberChars fuel true digit power rest)
      | c :: rest =>
          if c = 'e' || c = 'E' then
            let sign := (rest.take 1).filter fun x => x = '+' || x = '-'
            more (1 + sign.length) (numberChars fuel point digit true (rest.drop sign.length))
          else if isDigit c then more 1 (numberChars fuel point true power rest)
          else if c = '_' then more 1 (numberChars fuel point digit power rest)
          else if digit then .ok ([], point || power)
          else .error "no digit in that number"
      | [] => if digit then .ok ([], point || power) else .error "no digit in that number"

def number (cs : List Char) : Except String (TokenKind × Nat) :=
  let signed (sign : List Char) : Except String (TokenKind × Nat) := do
    let body := cs.drop sign.length
    let special := String.ofList (sign ++ body.take 3)
    if !sign.isEmpty && body.take 3 = "inf".toList then return (.infinity special, 4)
    if !sign.isEmpty && body.take 3 = "nan".toList then return (.nan special, 4)
    let (chars, isFloat) ← numberChars (body.length + 1) false false false body
    let text := String.ofList (sign ++ chars)
    return (if isFloat then .float text else .integer text, sign.length + chars.length)
  match cs with
  | '0' :: mark :: rest =>
      if mark = 'x' || mark = 'o' || mark = 'b' then
        let digits := basedDigits mark rest
        if digits.isEmpty then .error "number needs at least one digit"
        else .ok (.integer (String.ofList ('0' :: mark :: digits)), 2 + digits.length)
      else if mark.isAlpha then
        .error ("unknown number base: " ++ String.singleton mark
          ++ ". possible options are x (hex) o (octal) b (binary)")
      else signed []
  | sign :: _ => if sign = '+' || sign = '-' then signed [sign] else signed []
  | [] => signed []

def afterShape? : (shape : List Char) → List Char → Option (List Char)
  | [], cs => some cs
  | _, [] => none
  | x :: shape, c :: cs =>
      if (if x = 'd' then c.isDigit else c = x) then afterShape? shape cs else none

/-- The length of a point in time at the beginning of a text. A fraction of a second has at most
nine digits. -/
def timeLength? (cs : List Char) : Option Nat := do
  let year := ((cs.take 4).takeWhile Char.isDigit).length
  if year = 0 then none
  let rest ← afterShape? "-dd-ddTdd:dd:dd".toList (cs.drop year)
  let rest := match rest with
    | '.' :: more =>
        let digits := ((more.take 9).takeWhile Char.isDigit).length
        if digits = 0 then rest else more.drop digits
    | _ => rest
  let rest ← match rest with
    | 'Z' :: more => some more
    | '+' :: more | '-' :: more => afterShape? "dd:dd".toList more
    | _ => none
  return cs.length - rest.length

/-! ## All tokens -/

inductive Mode
  | line
  | value
  deriving DecidableEq

def comment (s : Spot) : Spot :=
  let text := s.rest.takeWhile (· ≠ '\n')
  let isReturn := text.length < s.rest.length && text.getLast? = some '\r'
  s.skip (if isReturn then text.length - 1 else text.length)

def tokensFrom : (fuel : Nat) → Mode → (depth : Int) → Spot → List Token
  | 0, _, _, s => [s.token .stop]
  | fuel + 1, mode, depth, s =>
      let one (kind : TokenKind) (width : Nat) (depth : Int) : List Token :=
        s.token kind :: tokensFrom fuel .value depth (s.skip width)
      let named (r : Except String (String × Spot)) : List Token :=
        match r with
        | .ok (text, after) => s.token (.key text) :: tokensFrom fuel .line depth after
        | .error e => [s.token (.bad e)]
      match s.rest with
      | [] => [s.token .stop]
      | c :: rest =>
          if c = '#' then tokensFrom fuel mode depth (comment s)
          else if c = '=' then one .equal 1 depth
          else if mode = .line then
            if c = '[' then
              let double := rest.head? = some '['
              let start := if double then s.skip 2 else s.next
              let r := if double then tablesName (rest.length + 1) start start else tableName start
              let more := match r.2 with
                | some after => tokensFrom fuel .line depth after
                | none => []
              s.token (if double then .doubleLeft else .leftBracket) :: (r.1 ++ more)
            else if c = '\n' || c = '\r' || isGap c then
              let mode := if isGap c && 0 < depth then .value else .line
              tokensFrom fuel mode depth s.next
            else if 0 < depth then tokensFrom fuel .value depth s
            else named (name (s.rest.length + 1) [] s)
          else if c = '\n' || c = '\r' then
            tokensFrom fuel (if depth = 0 then .line else .value) depth s.next
          else if isGap c then tokensFrom fuel .value depth s.next
          else if c = '.' then [s.token (.bad "cannot start float with a dot")]
          else if c = '_' then [s.token (.bad "cannot start number with underscore")]
          else if c = '[' then one .leftBracket 1 (depth + 1)
          else if c = ']' then one .rightBracket 1 (depth - 1)
          else if c = '\x7b' then one .leftBrace 1 depth
          else if c = '\x7d' then one .rightBrace 1 depth
          else if c = ',' then one .comma 1 depth
          else if c = '"' || c = '\'' then
            let text := quoted s
            text.1 :: (match text.2 with
              | some after => tokensFrom fuel .value depth after
              | none => [])
          else if s.follows "true" then one (.bool true) 4 depth
          else if s.follows "false" then one (.bool false) 5 depth
          else if s.follows "inf" then one (.infinity "inf") 3 depth
          else if s.follows "nan" then one (.nan "nan") 3 depth
          else match timeLength? s.rest with
            | some n => one (.time (String.ofList (s.rest.take n))) n depth
            | none =>
                if c = '+' || c = '-' || isDigit c then
                  match number s.rest with
                  | .ok (kind, width) => one kind width depth
                  | .error e => [s.token (.bad e)]
                else if Text.isLetter c then named (name (s.rest.length + 1) [] s)
                else [s.token (.bad ("no value can start with " ++ String.singleton c))]

def tokens (text : String) : List Token :=
  tokensFrom (2 * text.length + 2) .line 0 { rest := text.toList }

end PageBinding.Settings.Toml
