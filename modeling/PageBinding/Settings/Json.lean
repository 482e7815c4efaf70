import PageBinding.Number.Reading
import PageBinding.Text.Blank
import PageBinding.Text.Quoted
import PageBinding.Value.Data

/-!
Settings as JSON: an object with names and values.
-/
namespace PageBinding.Settings.Json

inductive Place
  | value
  | key
  | afterKey
  | afterEntry
  | afterItem
  | afterAll
  | inText
  | inNumber
  | inWord (word : String) (expected : Char)
  deriving DecidableEq, Repr

inductive JsonError
  | ended
  | tooDeep
  | unexpected (c : Char) (place : Place)
  | badEscape (bytes : List UInt8)
  | notObject (kind : String)
  | tooLarge (number : String) (path : List String)
  deriving DecidableEq, Repr

def Place.message : Place → String
  | value => "looking for beginning of value"
  | key => "looking for beginning of object key string"
  | afterKey => "after object key"
  | afterEntry => "after object key:value pair"
  | afterItem => "after array element"
  | afterAll => "after top-level value"
  | inText => "in string"
  | inNumber => "in numeric literal"
  | inWord word expected =>
      "in literal " ++ word ++ " (expecting '" ++ String.singleton expected ++ "')"

/-- An escape as messages show it: between back quotes, or in double quotes if it has characters
without a shape. -/
def shownEscape (bytes : List UInt8) : String :=
  let plain (c : Char) : Bool :=
    c ≠ '\x60' && c ≠ Text.replacement && !Text.isBlank c && Text.isGraphic c
  match Text.ofBytes? bytes with
  | some s => if s.toList.all plain then "\x60" ++ s ++ "\x60" else Text.shownBytes bytes
  | none => Text.shownBytes bytes

def shownPath (path : List String) : String :=
  let step (s : String) : List Char :=
    s.toList.flatMap fun c => if c = '~' then ['~', '0'] else if c = '/' then ['~', '1'] else [c]
  Text.joinStrings "." (path.map fun s => String.ofList (step s))

def JsonError.message : JsonError → String
  | ended => "unexpected end of JSON input"
  | tooDeep => "exceeded max depth"
  | unexpected c place => "invalid character " ++ Text.shownSingle c ++ " " ++ place.message
  | badEscape bytes => "invalid escape sequence " ++ shownEscape bytes ++ " in string"
  | notObject kind =>
      "json: cannot unmarshal " ++ kind ++ " into Go value of type map[string]interface \x7b\x7d"
  | tooLarge number path =>
      let place := "." ++ shownPath path
      let place := if Text.hasChar (shownPath path) '.' then place else "Go struct field " ++ place
      "json: cannot unmarshal number " ++ number ++ " into " ++ place ++ " of type float64"

abbrev Reader (α : Type) := List Char → Except JsonError (α × List Char)

def isSpace (c : Char) : Bool :=
  c = ' ' || c = '\t' || c = '\r' || c = '\n'

def skip (cs : List Char) : List Char :=
  cs.dropWhile isSpace

def fail {α : Type} (place : Place) (cs : List Char) : Except JsonError α :=
  match cs with
  | [] => .error .ended
  | c :: _ => .error (.unexpected c place)

/-! ## Texts -/

def escapes : List (Char × Char) :=
  [('b', '\x08'), ('f', '\x0c'), ('n', '\n'), ('r', '\r'), ('t', '\t'), ('"', '"'), ('\\', '\\'),
    ('/', '/')]

/-- The number of characters that an escape for a code has: backslash, letter, four digits. -/
def codeLength : Nat := 6

def codeError (cs : List Char) : JsonError :=
  let bytes := Text.toBytes (String.ofList cs)
  let cut := bytes.length < codeLength
  if cut && (cs.drop 2).all fun c => (Text.hexValue? c).isSome then .ended
  else .badEscape (bytes.take codeLength)

def code (cs : List Char) : Except JsonError Nat :=
  let digits := (cs.take codeLength).drop 2
  if digits.length = 4 && digits.all fun c => (Text.hexValue? c).isSome then
    .ok (Number.hexadecimalValue digits)
  else .error (codeError cs)

def pieces : (fuel : Nat) → Reader (List Nat)
  | 0, _ => .error .ended
  | fuel + 1, cs =>
      match cs with
      | [] => .error .ended
      | '"' :: rest => .ok ([], rest)
      | '\\' :: 'u' :: _ =>
          match code cs with
          | .error e => .error e
          | .ok n => (pieces fuel (cs.drop codeLength)).map fun r => (n :: r.1, r.2)
      | '\\' :: rest =>
          match rest with
          | [] => .error .ended
          | c :: after =>
              match escapes.lookup c with
              | some x => (pieces fuel after).map fun r => (x.toNat :: r.1, r.2)
              | none => .error (.badEscape ((Text.toBytes (String.ofList ['\\', c])).take 2))
      | c :: rest =>
          if c.toNat < 0x20 then fail .inText cs
          else (pieces fuel rest).map fun r => (c.toNat :: r.1, r.2)

/-- The characters of pieces: two codes that belong together are one character, and a code without
its partner is replaced. -/
def characters : List Nat → List Char
  | [] => []
  | [n] => [Char.ofNat (if 0xd800 ≤ n && n ≤ 0xdfff then 0xfffd else n)]
  | m :: n :: rest =>
      if 0xd800 ≤ m && m < 0xdc00 && 0xdc00 ≤ n && n ≤ 0xdfff then
        Char.ofNat (0x10000 + (m - 0xd800) * 0x400 + (n - 0xdc00)) :: characters rest
      else
        Char.ofNat (if 0xd800 ≤ m && m ≤ 0xdfff then 0xfffd else m) :: characters (n :: rest)

def string : Reader String := fun cs =>
  (pieces (cs.length + 1) cs).map fun r => (String.ofList (characters r.1), r.2)

/-! ## Numbers and words -/

def digits : Reader (List Char) := fun cs =>
  let taken := cs.takeWhile Char.isDigit
  if taken.isEmpty then fail .inNumber cs else .ok (taken, cs.drop taken.length)

def numberText : Reader (List Char) := fun cs => do
  let sign := cs.takeWhile (· = '-') |>.take 1
  let cs := cs.drop sign.length
  let (whole, cs) ← match cs with
    | '0' :: rest => .ok (['0'], rest)
    | cs => digits cs
  let (fraction, cs) ← match cs with
    | '.' :: rest => (digits rest).map fun r => ('.' :: r.1, r.2)
    | cs => .ok ([], cs)
  let (exponent, cs) ← match cs with
    | mark :: rest =>
        if mark = 'e' || mark = 'E' then
          let sign := (rest.take 1).filter fun c => c = '+' || c = '-'
          (digits (rest.drop sign.length)).map fun r => (mark :: sign ++ r.1, r.2)
        else .ok ([], cs)
    | [] => .ok ([], cs)
  return (sign ++ whole ++ fraction ++ exponent, cs)

def word (name : String) : List Char → List Char → Except JsonError (List Char)
  | [], cs => .ok cs
  | x :: expected, cs =>
      match cs with
      | [] => .error .ended
      | c :: rest => if c = x then word name expected rest else fail (.inWord name x) cs

/-! ## Values -/

inductive Tree
  | null
  | bool (b : Bool)
  | text (s : String)
  | number (digits : List Char)
  | list (items : List Tree)
  | record (fields : List (String × Tree))
  deriving Inhabited

def depthLimit : Nat := 10000

mutual

def value (depth : Nat) : (fuel : Nat) → Reader Tree
  | 0, _ => .error .ended
  | fuel + 1, cs =>
      match skip cs with
      | '\x7b' :: rest =>
          if depthLimit ≤ depth then .error .tooDeep
          else (entries (depth + 1) fuel true rest).map fun r => (.record r.1, r.2)
      | '[' :: rest =>
          if depthLimit ≤ depth then .error .tooDeep
          else (items (depth + 1) fuel true rest).map fun r => (.list r.1, r.2)
      | '"' :: rest => (string rest).map fun r => (.text r.1, r.2)
      | 't' :: rest => (word "true" ['r', 'u', 'e'] rest).map fun r => (.bool true, r)
      | 'f' :: rest => (word "false" ['a', 'l', 's', 'e'] rest).map fun r => (.bool false, r)
      | 'n' :: rest => (word "null" ['u', 'l', 'l'] rest).map fun r => (.null, r)
      | cs =>
          if cs.head?.any fun c => c = '-' || c.isDigit then
            (numberText cs).map fun r => (.number r.1, r.2)
          else fail .value cs

def items (depth : Nat) : (fuel : Nat) → (first : Bool) → Reader (List Tree)
  | 0, _, _ => .error .ended
  | fuel + 1, first, cs =>
      match first, skip cs with
      | _, ']' :: rest => .ok ([], rest)
      | false, ',' :: rest => item depth fuel rest
      | true, cs => item depth fuel cs
      | false, cs => fail .afterItem cs

def item (depth : Nat) : (fuel : Nat) → Reader (List Tree)
  | 0, _ => .error .ended
  | fuel + 1, cs =>
      match value depth fuel cs with
      | .error e => .error e
      | .ok (x, rest) => (items depth fuel false rest).map fun r => (x :: r.1, r.2)

def entries (depth : Nat) : (fuel : Nat) → (first : Bool) → Reader (List (String × Tree))
  | 0, _, _ => .error .ended
  | fuel + 1, first, cs =>
      match first, skip cs with
      | _, '\x7d' :: rest => .ok ([], rest)
      | false, ',' :: rest => entry depth fuel rest
      | true, cs => entry depth fuel cs
      | false, cs => fail .afterEntry cs

def entry (depth : Nat) : (fuel : Nat) → Reader (List (String × Tree))
  | 0, _ => .error .ended
  | fuel + 1, cs =>
      match skip cs with
      | '"' :: rest =>
          match string rest with
          | .error e => .error e
          | .ok (key, rest) =>
              match skip rest with
              | ':' :: rest =>
                  match value depth fuel rest with
                  | .error e => .error e
                  | .ok (x, rest) =>
                      (entries depth fuel false rest).map fun r => ((key, x) :: r.1, r.2)
              | cs => fail .afterKey cs
      | cs => fail .key cs

end

mutual

def Tree.data (path : List String) : Tree → Except JsonError Data
  | .null => .ok .null
  | .bool b => .ok (.bool b)
  | .text s => .ok (.string s)
  | .number digits =>
      match Number.read digits with
      | .ok x => .ok (.number x)
      | .error _ => .error (.tooLarge (String.ofList digits) path.reverse)
  | .list items => (itemData path 0 items).map .list
  | .record fields => (fieldData path fields).map .record

def Tree.itemData (path : List String) (position : Nat) :
    List Tree → Except JsonError (List Data)
  | [] => .ok []
  | x :: xs => do
      let first ← x.data (toString position :: path)
      return first :: (← itemData path (position + 1) xs)

def Tree.fieldData (path : List String) :
    List (String × Tree) → Except JsonError (List (String × Data))
  | [] => .ok []
  | (key, x) :: rest => do
      let first ← x.data (key :: path)
      return (key, first) :: (← fieldData path rest)

end

def Tree.kind : Tree → String
  | .list _ => "array"
  | .text _ => "string"
  | .bool _ => "bool"
  | _ => "number"

def load (text : String) : Except JsonError (List (String × Data)) :=
  match value 0 (2 * text.length + 4) text.toList with
  | .error e => .error e
  | .ok (x, rest) =>
      match skip rest with
      | [] =>
          match x with
          | .record fields => Tree.fieldData [] fields
          | .null => .ok []
          | x => .error (.notObject x.kind)
      | cs => fail .afterAll cs

end PageBinding.Settings.Json
