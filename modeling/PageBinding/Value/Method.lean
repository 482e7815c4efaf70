import PageBinding.Text.Replace
import PageBinding.Value.Equality

/-!
The methods of texts, numbers, truth values and arrays.
-/
namespace PageBinding.Value

def argument (args : List Value) (i : Nat) : Value :=
  args.getD i .undefined

def isUndefined : Value → Bool
  | undefined => true
  | _ => false

def ofNat (n : Nat) : Value :=
  number (Float.ofNat n)

def ofChars (cs : List Char) : Value :=
  string (String.ofList cs)

/-- The position that an index means in something of length `n`: none unless it is a whole number
within bounds. -/
def position? (i : Value) (n : Nat) : Option Nat :=
  let x := i.toNumber
  if x == Number.truncate x && 0.0 ≤ x && x < Float.ofNat n then (Number.toInt? x).map Int.toNat
  else none

/-! ## Texts -/

/-- One end of a part of a text of length `n`. A number is cut to a whole one and kept within the
text; with `fromEnd` a negative one counts from the end. -/
def bound (n : Nat) (fromEnd : Bool) (default : Nat) (v : Value) : Nat :=
  if v.isUndefined then default
  else
    match Number.toInt? v.toNumber with
    | none => if v.toNumber == Number.infinity then n else 0
    | some i =>
        let i := if i < 0 && fromEnd then i + n else i
        min i.toNat n

def part (start stop : Nat) (cs : List Char) : List Char :=
  (cs.take stop).drop start

def slice (cs : List Char) (a b : Value) : List Char :=
  part (bound cs.length true 0 a) (bound cs.length true cs.length b) cs

def substring (cs : List Char) (a b : Value) : List Char :=
  let i := bound cs.length false 0 a
  let j := bound cs.length false cs.length b
  part (min i j) (max i j) cs

def isTrimmed (c : Char) : Bool :=
  Text.oneOf " \t\n\r\x0c\x0b" c

def charAt (cs : List Char) (i : Value) : List Char :=
  match i.position? cs.length with
  | some n => (cs[n]?).toList
  | none => if i.isUndefined then cs.take 1 else []

def trimmed (trim : {α : Type} → (α → Bool) → List α → List α) (drop : Char → Bool) : Value → Value
  | bytes bs =>
      ofBytes ((trim (Sum.elim drop fun _ => false) (Text.pieces bs)).flatMap Text.pieceBytes)
  | v => ofChars (trim drop v.toText.toList)

/-- The parts of a text between the occurrences of a separator; the whole text if none is given. -/
def splitText (text : List UInt8) (separator : Value) : List (List UInt8) :=
  if separator.isUndefined then [text] else Text.cut separator.toBytes text

def textMethod? (name : String) (v : Value) (args : List Value) : Option Value :=
  let cs := v.toText.toList
  let text := v.toBytes
  let a := argument args 0
  let b := argument args 1
  let first := a.toBytes
  let second := b.toBytes
  match name with
  | "toUpperCase" => some (string (Text.upper v.toText))
  | "toLowerCase" => some (string (Text.lower v.toText))
  | "toString" => some (ofBytes text)
  | "trim" => some (v.trimmed Text.trimBy Text.isBlank)
  | "trimStart" => some (v.trimmed Text.trimStartBy isTrimmed)
  | "trimEnd" => some (v.trimmed Text.trimEndBy isTrimmed)
  | "includes" => some (bool (Text.contains first text))
  | "startsWith" => some (bool (first.isPrefixOf text))
  | "endsWith" => some (bool (first.isSuffixOf text))
  | "indexOf" =>
      let found := (Text.indexOf first text).map fun i => ofNat (Text.pieces (text.take i)).length
      some (found.getD (number (-1.0)))
  | "charAt" => some (ofChars (charAt cs a))
  | "slice" => some (ofChars (slice cs a b))
  | "substring" => some (ofChars (substring cs a b))
  | "split" => some (array ((splitText text a).map ofBytes))
  | "replace" => some (ofBytes (Text.replaceFirst first second text))
  | "replaceAll" => some (ofBytes (Text.replaceAll first second text))
  | _ => none

/-! ## Arrays -/

def indexIn (v : Value) (items : List Value) : Option Nat :=
  items.findIdx? fun item => strictEq item v

def arrayMethod? (name : String) (items : List Value) (args : List Value) : Option Value :=
  let a := argument args 0
  match name with
  | "includes" => some (bool (indexIn a items).isSome)
  | "indexOf" =>
      match indexIn a items with
      | some i => some (ofNat i)
      | none => some (number (-1.0))
  | "join" =>
      let separator := if a.isUndefined then Text.toBytes "," else a.toBytes
      some (ofBytes (Text.join separator (itemBytes items)))
  | _ => none

/-! ## Numbers -/

inductive ArgumentError
  | digits
  deriving DecidableEq, Repr

def toFixed (x : Float) (places : Value) : Except ArgumentError Value :=
  let d := if places.toNumber.isNaN then 0.0 else places.toNumber
  if d < 0.0 || 100.0 < d then .error .digits
  else .ok (string (Number.fixed ((Number.toInt? d).getD 0).toNat x))

end PageBinding.Value
