import PageBinding.Yaml.Problem

/-!
A place in a text, by line and column, and the classes of characters that the format tells apart.
-/
namespace PageBinding.Yaml

structure Cursor where
  rest : List Char
  index : Nat := 0
  line : Nat := 0
  column : Nat := 0
  deriving Repr, Inhabited

def isBreak (c : Char) : Bool :=
  c == '\n' || c == '\r' || c == '\u0085' || c == '\u2028' || c == '\u2029'

def isGap (c : Char) : Bool :=
  c == ' ' || c == '\t'

def isNameChar (c : Char) : Bool :=
  c.isAlphanum || c == '_' || c == '-'

def isAllowed (c : Char) : Bool :=
  let n := c.toNat
  n == 9 || n == 10 || n == 13 || (0x20 ≤ n && n ≤ 0x7e) || n == 0x85 ||
    (0xa0 ≤ n && n ≤ 0xd7ff) || (0xe000 ≤ n && n ≤ 0xfffd) || 0x10000 ≤ n

def endsLine (cs : List Char) : Bool :=
  match cs with
  | [] => true
  | c :: _ => isBreak c

def endsWord (cs : List Char) : Bool :=
  match cs with
  | [] => true
  | c :: _ => isGap c || isBreak c

def atDocumentMark (cs : List Char) : Bool :=
  match cs with
  | '-' :: '-' :: '-' :: rest => endsWord rest
  | '.' :: '.' :: '.' :: rest => endsWord rest
  | _ => false

namespace Cursor

def start (text : List Char) : Cursor := { rest := text }

def skip (c : Cursor) : Cursor :=
  ⟨c.rest.drop 1, c.index + 1, c.line, c.column + 1⟩

def skipMany (c : Cursor) (n : Nat) : Cursor :=
  ⟨c.rest.drop n, c.index + n, c.line, c.column + n⟩

def takeBreak (c : Cursor) : List Char × Cursor :=
  match c.rest with
  | '\r' :: '\n' :: rest => (['\n'], ⟨rest, c.index + 2, c.line + 1, 0⟩)
  | x :: rest =>
      let next : Cursor := ⟨rest, c.index + 1, c.line + 1, 0⟩
      if x == '\u2028' || x == '\u2029' then ([x], next)
      else if isBreak x then (['\n'], next)
      else ([], c)
  | [] => ([], c)

def takeWhile (c : Cursor) (p : Char → Bool) : List Char × Cursor :=
  let taken := c.rest.takeWhile p
  (taken, c.skipMany taken.length)

def skipWhile (c : Cursor) (p : Char → Bool) : Cursor :=
  (c.takeWhile p).2

def skipLine (c : Cursor) : Cursor :=
  c.skipWhile fun x => !isBreak x

def atDocument (c : Cursor) : Bool :=
  c.column == 0 && atDocumentMark c.rest

def finding (c : Cursor) (problem : Problem) (began : Nat) : Finding :=
  ⟨problem, true, began, c.line, c.index⟩

end Cursor

/-! ## Reading in parts -/

def partSize : Nat := 512

/-- The number of characters before the part with the first character that may not stand in a text,
of which `index` characters have been read, the last of them in a part that began at `start` and has
`room` bytes left. A character is never divided. -/
def badPartFrom? (room start index : Nat) : List Char → Option Nat
  | [] => none
  | c :: cs =>
      let width := c.utf8Size
      let (room, start) := if room < width then (partSize, index) else (room, start)
      if isAllowed c then badPartFrom? (room - width) start (index + 1) cs else some start

/-- The number of characters before the part with the first character that may not stand in a text,
whose first part begins with some other bytes. -/
def badPart? (before : Nat) (text : List Char) : Option Nat :=
  badPartFrom? (partSize - before) 0 0 text

end PageBinding.Yaml
