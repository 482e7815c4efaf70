import PageBinding.Text.Basic

/-!
Texts between commas, as one record of a table has them. A text in quotes may have commas, line
breaks, and quotes, which are written twice.
-/
namespace PageBinding.Command.Record

inductive Fault
  | bareQuote
  | badQuote
  deriving DecidableEq, Repr

inductive RecordError
  | ended
  /-- A fault in a record that began at a line. Lines and columns count from one, columns in
  bytes. -/
  | fault (start line column : Nat) (cause : Fault)
  deriving DecidableEq, Repr

def Fault.message : Fault → String
  | bareQuote => "bare \" in non-quoted-field"
  | badQuote => "extraneous or missing \" in quoted-field"

def RecordError.message : RecordError → String
  | ended => "EOF"
  | fault start line column cause =>
      let record := if start = line then "" else "record on line " ++ toString start ++ "; "
      record ++ "parse error on line " ++ toString line ++ ", column " ++ toString column ++ ": "
        ++ cause.message

/-- The lines of a text, each with the line feed that ends it. A carriage return before the end of a
line is dropped. -/
def lines (cs : List Char) : List (List Char) :=
  let parts := (Text.splitOn '\n' cs).map fun part => (Text.dropEnd? ['\r'] part).getD part
  let ended := parts.dropLast.map (· ++ ['\n'])
  match (Text.splitOn '\n' cs).getLast? with
  | none | some [] => ended
  | some _ => ended ++ parts.getLast?.toList

/-- A place in a record: what is left of its line, the lines after it, and where that is. -/
structure Place where
  rest : List Char
  more : List (List Char)
  start : Nat
  line : Nat
  column : Nat := 1

namespace Place

def skip (p : Place) (n : Nat) : Place :=
  { p with rest := p.rest.drop n, column := p.column + Text.byteLength (p.rest.take n) }

def nextLine (p : Place) : Place :=
  let p := p.skip p.rest.length
  match p.more with
  | [] => p
  | [] :: more => { p with more }
  | line :: more => { p with rest := line, more, line := p.line + 1, column := 1 }

def fault {α : Type} (p : Place) (cause : Fault) : Except RecordError α :=
  .error (.fault p.start p.line p.column cause)

end Place

/-- A text that is not quoted: up to a comma or the end of the line, and the place after it. -/
def bareText (p : Place) : Except RecordError (List Char × Place) :=
  let text := p.rest.takeWhile fun c => c ≠ ',' && c ≠ '\n'
  let before := text.takeWhile (· ≠ '"')
  if before.length = text.length then .ok (text, p.skip text.length)
  else (p.skip before.length).fault .bareQuote

def quotedText : (fuel : Nat) → Place → Except RecordError (List Char × Place)
  | 0, p => p.fault .badQuote
  | fuel + 1, p =>
      let text := p.rest.takeWhile (· ≠ '"')
      let after := p.skip text.length
      let more (shown : List Char) (p : Place) : Except RecordError (List Char × Place) :=
        (quotedText fuel p).map fun r => (shown ++ r.1, r.2)
      match after.rest with
      | '"' :: '"' :: _ => more (text ++ ['"']) (after.skip 2)
      | '"' :: rest =>
          if rest.head?.all fun c => c = ',' || c = '\n' then .ok (text, after.skip 1)
          else after.fault .badQuote
      | _ => if p.rest.isEmpty then p.fault .badQuote else more text p.nextLine

def textsFrom : (fuel : Nat) → Place → Except RecordError (List String)
  | 0, _ => .ok []
  | fuel + 1, p => do
      let (text, after) ← if p.rest.head? = some '"' then
          let size := p.rest.length + p.more.flatten.length + p.more.length
          quotedText (size + 1) (p.skip 1)
        else bareText p
      let text := String.ofList text
      if after.rest.head? = some ',' then return text :: (← textsFrom fuel (after.skip 1))
      return [text]

def texts (s : String) : Except RecordError (List String) :=
  let all := lines s.toList
  let blank := all.takeWhile fun line => line.isEmpty || line = ['\n']
  match all.drop blank.length with
  | [] => .error .ended
  | first :: more =>
      let n := blank.length + 1
      textsFrom (s.length + 1) { rest := first, more, start := n, line := n }

end PageBinding.Command.Record
