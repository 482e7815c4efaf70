import PageBinding.Yaml.Binary
import PageBinding.Yaml.Cursor
import PageBinding.Yaml.Plain

/-!
Data written as a file.

Collections are written in blocks, two columns further right for each level. A text is written
plainly where it reads back as itself, as a block if it has several lines, and in quotes otherwise.
-/
namespace PageBinding.Yaml

inductive Outline
  | text (s : String)
  | binary (bytes : List UInt8)
  | plain (s : String)
  | list (items : List Outline)
  | record (entries : List (Outline × Outline))
  deriving Inhabited

/-! ## What texts need -/

def areSixtieths : List (List Char) → Bool
  | [] => false
  | [last] =>
      let whole := last.takeWhile Char.isDigit
      isPart whole && match last.drop whole.length with
        | [] => true
        | c :: rest => c = '.' && rest.all fun d => d.isDigit || d = '_'
  | part :: parts => isPart part && areSixtieths parts
where
  isPart : List Char → Bool
    | [a] => a.isDigit
    | [a, b] => ('0' ≤ a && a ≤ '5') && b.isDigit
    | _ => false

def isSixtieth (cs : List Char) : Bool :=
  let cs := if cs.head?.any (fun c => c = '+' || c = '-') then cs.drop 1 else cs
  match Text.splitOn ':' cs with
  | first :: part :: parts =>
      (first.head?.any Char.isDigit) && (first.all fun c => c.isDigit || c = '_') &&
        areSixtieths (part :: parts)
  | _ => false

/-- Whether a text, written plainly, reads back as a text, also in readers that take some words for
truth values. -/
def readsBack (s : String) : Bool :=
  (resolve .data s).1 = .string && (wordBoolean? s).isNone && !isSixtieth s.toList

def isPrintable (c : Char) : Bool :=
  let n := c.toNat
  n = 0x0a || (0x20 ≤ n && n ≤ 0x7e) || (0xa0 ≤ n && n ≤ 0xfffd && n ≠ 0xfeff)

structure Features where
  indicators : Bool := false
  breaks : Bool := false
  special : Bool := false
  tabs : Bool := false
  ragged : Bool := false
  endsInSpace : Bool := false
  breakThenSpace : Bool := false
  spaceThenBreak : Bool := false

def indicatorFirst (c : Char) (rest : List Char) : Bool :=
  Text.oneOf "#,[]\x7b\x7d&*!|>'\"%@\x60" c || (Text.oneOf "?:-" c && startsGap rest)
where
  startsGap (rest : List Char) : Bool :=
    match rest with
    | [] => true
    | x :: _ => isGap x

def indicatorAfter (previous : Char) : List Char → Bool
  | [] => false
  | c :: rest =>
      (c = ':' && indicatorFirst.startsGap rest) ||
        (c = '#' && (isGap previous || isBreak previous)) || indicatorAfter c rest

def hasPair (first second : Char → Bool) : List Char → Bool
  | a :: b :: rest => (first a && second b) || hasPair first second (b :: rest)
  | _ => false

def features (cs : List Char) : Features :=
  let isSpace (c : Char) : Bool := c = ' '
  let isEdge (c : Char) : Bool := isSpace c || isBreak c
  let start := String.ofList (cs.take 3)
  { indicators := start = "---" || start = "..." || match cs with
      | [] => false
      | c :: rest => indicatorFirst c rest || indicatorAfter c rest
    breaks := cs.any isBreak
    special := cs.any fun c => c ≠ '\t' && !isPrintable c
    tabs := cs.any (· = '\t')
    ragged := cs.head?.any isEdge || cs.getLast?.any isEdge
    endsInSpace := cs.getLast?.any isSpace
    breakThenSpace := hasPair isBreak isSpace cs
    spaceThenBreak := hasPair isSpace isBreak cs }

inductive Writing
  | plain
  | single
  | double
  | block
  deriving DecidableEq, Repr

def writing (s : String) : Writing :=
  let f := features s.toList
  let plainOk := !(f.ragged || f.breakThenSpace || f.spaceThenBreak || f.tabs || f.special ||
    f.breaks || f.indicators)
  let singleOk := !(f.breakThenSpace || f.spaceThenBreak || f.tabs || f.special)
  let blockOk := !(f.endsInSpace || f.spaceThenBreak || f.special)
  if Text.hasChar s '\n' then if blockOk then .block else .double
  else if !readsBack s then .double
  else if plainOk then .plain
  else if singleOk then .single
  else .double

/-! ## Scalars -/

def indented (indent : List Char) : (atStart : Bool) → List Char → List Char
  | _, [] => []
  | atStart, c :: cs =>
      if isBreak c then c :: indented indent true cs
      else if atStart then indent ++ c :: indented indent false cs
      else c :: indented indent false cs

def singleQuoted (indent : List Char) (cs : List Char) : List Char :=
  let body := cs.flatMap fun c => if c = '\'' then ['\'', '\''] else [c]
  '\'' :: indented indent false body ++ ['\'']

def letterEscapes : List (Char × Char) :=
  [('\x00', '0'), ('\x07', 'a'), ('\x08', 'b'), ('\t', 't'), ('\n', 'n'), ('\x0b', 'v'),
    ('\x0c', 'f'), ('\r', 'r'), ('\x1b', 'e'), ('"', '"'), ('\\', '\\'), ('\u0085', 'N'),
    ('\u00a0', '_'), ('\u2028', 'L'), ('\u2029', 'P')]

def doubleQuotedChar (always : Bool) (c : Char) : List Char :=
  if !always && isPrintable c && !isBreak c && c ≠ '"' && c ≠ '\\' then [c]
  else match letterEscapes.lookup c with
    | some letter => ['\\', letter]
    | none =>
        let n := c.toNat
        let digits (width : Nat) := (Text.hex width n).map Char.toUpper
        if n ≤ 0xff then '\\' :: 'x' :: digits 2
        else if n ≤ 0xffff then '\\' :: 'u' :: digits 4
        else '\\' :: 'U' :: digits 8

/-- A text in double quotes. If it begins with the mark of an encoding, every character is written
as an escape. -/
def doubleQuoted (cs : List Char) : List Char :=
  '"' :: cs.flatMap (doubleQuotedChar (cs.head? = some '\ufeff')) ++ ['"']

/-- What follows the bar of a block: its indentation if the text hides it, and what becomes of the
breaks at its end. -/
def blockMarks (cs : List Char) : List Char :=
  let hint := if cs.head?.any (fun c => c = ' ' || isBreak c) then ['2'] else []
  let chomp := match cs.reverse with
    | [] => ['-']
    | [last] => if isBreak last then ['+'] else ['-']
    | last :: before :: _ =>
        if !isBreak last then ['-'] else if isBreak before then ['+'] else []
  hint ++ chomp

def blockText (indent : List Char) (cs : List Char) : List Char :=
  let body := if cs.head?.any isBreak then indented indent true cs
    else '\n' :: indented indent true cs
  '|' :: blockMarks cs ++ body

def scalarText (column : Nat) (s : String) : String :=
  let indent := List.replicate (column + 2) ' '
  match writing s with
  | .plain => s
  | .single => String.ofList (singleQuoted indent s.toList)
  | .double => String.ofList (doubleQuoted s.toList)
  | .block => String.ofList (blockText indent s.toList)

def binaryScalar (column : Nat) (bytes : List UInt8) : String :=
  let indent := List.replicate (column + 2) ' '
  let s := binaryText bytes
  "!!binary " ++
    if Text.hasChar s '\n' then String.ofList (blockText indent s.toList) else s

/-! ## Collections -/

def ended (s : String) : String :=
  if s.toList.getLast? = some '\n' then s else s ++ "\n"

def joinLines (column : Nat) : List String → String
  | [] => ""
  | [line] => line
  | line :: lines =>
      ended line ++ String.ofList (List.replicate column ' ') ++ joinLines column lines

def shortKeyLimit : Nat := 128

def isShortKey : Outline → Bool
  | .text s => !(s.toList.any isBreak) && s.utf8ByteSize ≤ shortKeyLimit
  | .binary bytes => !Text.hasChar (binaryText bytes) '\n'
  | _ => true

mutual

def nested (column : Nat) : Outline → String
  | .text s => " " ++ scalarText column s
  | .binary bytes => " " ++ binaryScalar column bytes
  | .plain s => " " ++ s
  | .list [] => " []"
  | .record [] => " \x7b\x7d"
  | .list items => " " ++ joinLines (column + 2) (itemLines (column + 2) items)
  | .record entries => " " ++ joinLines (column + 2) (entryLines (column + 2) entries)

def value (column : Nat) : Outline → String
  | .text s => " " ++ scalarText column s
  | .binary bytes => " " ++ binaryScalar column bytes
  | .plain s => " " ++ s
  | .list [] => " []"
  | .record [] => " \x7b\x7d"
  | .list items => below column (joinLines (column + 2) (itemLines (column + 2) items))
  | .record entries => below column (joinLines (column + 2) (entryLines (column + 2) entries))
where
  below (column : Nat) (body : String) : String :=
    "\n" ++ String.ofList (List.replicate (column + 2) ' ') ++ body

def itemLines (column : Nat) : List Outline → List String
  | [] => []
  | item :: items => ("-" ++ nested column item) :: itemLines column items

def entryLines (column : Nat) : List (Outline × Outline) → List String
  | [] => []
  | (key, item) :: entries =>
      if isShortKey key then
        (keyText column key ++ ":" ++ value column item) :: entryLines column entries
      else
        joinLines column ["?" ++ nested column key, ":" ++ nested column item]
          :: entryLines column entries
where
  keyText (column : Nat) : Outline → String
    | .text s => scalarText column s
    | .binary bytes => binaryScalar column bytes
    | .plain s => s
    | .list _ => "[]"
    | .record _ => "\x7b\x7d"

end

def Outline.render (entries : List (Outline × Outline)) : String :=
  match entries with
  | [] => "\x7b\x7d\n"
  | entries => ended (joinLines 0 (entryLines 0 entries))

/-! ## Keys -/

def digitRun (n : Int64) (cs : List Char) : Int64 :=
  (cs.takeWhile Text.isDigit).foldl
    (fun n c => n * 10 + Int64.ofInt ((c.toNat : Int) - ('0'.toNat : Int))) n

def nonzeroBefore (before : List Char) : Bool :=
  (before.takeWhile Text.isDigit).any (· ≠ '0')

/-- Whether one key is written before another: by their first difference, where runs of digits
count as numbers and letters come before the rest inside words. -/
def keyBefore (before : List Char) (digits : Bool) : List Char → List Char → Bool
  | [], ys => !ys.isEmpty
  | _ :: _, [] => false
  | x :: xs, y :: ys =>
      if x = y then keyBefore (x :: before) (Text.isDigit x) xs ys
      else if Text.isLetter x && Text.isLetter y then x < y
      else if Text.isLetter x || Text.isLetter y then
        if digits then Text.isLetter x else Text.isLetter y
      else
        let start : Int64 := if (x = '0' || y = '0') && nonzeroBefore before then 1 else 0
        let m := digitRun start (x :: xs)
        let n := digitRun start (y :: ys)
        let lengthOf (cs : List Char) := (cs.takeWhile Text.isDigit).length
        if m ≠ n then m < n
        else if lengthOf (x :: xs) ≠ lengthOf (y :: ys) then
          lengthOf (x :: xs) < lengthOf (y :: ys)
        else x < y

def sortKeys {α : Type} (entries : List (String × α)) : List (String × α) :=
  entries.mergeSort fun a b => !keyBefore [] false b.1.toList a.1.toList

/-! ## Plain data -/

def numberText (general : String) : String :=
  if general = "+Inf" then ".inf"
  else if general = "-Inf" then "-.inf"
  else if general = "NaN" then ".nan"
  else general

def keyNumber? : Data → Option Float
  | .bool b => some (if b then 1 else 0)
  | .int n => some (Float.ofInt n.toInt)
  | .uint n => some (Float.ofNat n.toNat)
  | .number x => some x
  | _ => none

def keyRank : Data → Nat
  | .bool _ => 1
  | .int _ => 2
  | .uint _ => 11
  | .number _ => 14
  | .string _ | .bytes _ => 24
  | _ => 20

def tableKeyBefore (a b : Data) : Bool :=
  match keyNumber? a, keyNumber? b, a, b with
  | some x, some y, _, _ =>
      if x != y then x < y
      else if keyRank a ≠ keyRank b then keyRank a < keyRank b
      else Data.keyBefore a b && !Data.keyBefore b a
  | _, _, .string s, .string t => keyBefore [] false s.toList t.toList
  | _, _, _, _ => keyRank a < keyRank b

mutual

def Outline.ofData : Data → Outline
  | .null => .plain "null"
  | .bool b => .plain (if b then "true" else "false")
  | .string s => .text s
  | .bytes bs => .binary bs
  | .number x => .plain (numberText (Number.general x))
  | .int n => .plain (toString n.toInt)
  | .uint n => .plain (toString n.toNat)
  | .list items => .list (ofItems items)
  | .record fields =>
      .record ((sortKeys (ofFields fields)).map fun entry => (.text entry.1, entry.2))
  | .table entries =>
      let sorted := (ofEntries entries).mergeSort fun a b => !tableKeyBefore b.1 a.1
      .record (sorted.map fun entry => entry.2)

def Outline.ofItems : List Data → List Outline
  | [] => []
  | d :: ds => ofData d :: ofItems ds

def Outline.ofFields : List (String × Data) → List (String × Outline)
  | [] => []
  | (key, d) :: rest => (key, ofData d) :: ofFields rest

def Outline.ofEntries : List (Data × Data) → List (Data × Outline × Outline)
  | [] => []
  | (key, d) :: rest => (key, ofData key, ofData d) :: ofEntries rest

end

end PageBinding.Yaml
