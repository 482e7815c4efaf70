import PageBinding.Text.Basic
import PageBinding.Text.Blank

/-!
Settings in sections. Every name in such a text belongs to a section, so that none of them is the
name of a setting: the text only has to be well formed.
-/
namespace PageBinding.Settings.Sections

inductive SectionsError
  | openSection (line : String)
  | emptySection
  | openKey (line : String)
  | noDelimiter (line : String)
  | openValue (start stop : String)
  | emptyKey
  deriving DecidableEq, Repr

def SectionsError.message : SectionsError → String
  | openSection line => "unclosed section: " ++ line
  | emptySection => "error creating new section: empty section name"
  | openKey line => "missing closing key quote: " ++ line
  | noDelimiter line => "key-value delimiter not found: " ++ line
  | openValue start stop => "missing closing key quote from '" ++ start ++ "' to '" ++ stop ++ "'"
  | emptyKey => "error creating new key: empty key name"

def linesOf (cs : List Char) : List (List Char) :=
  let parts := Text.splitOn '\n' cs
  (parts.dropLast.map (· ++ ['\n'])) ++ (parts.getLast?).toList

/-- The quote of a key or value at the beginning of a line that is longer than `least` bytes. -/
def tripleQuote? (least : Nat) (line : List Char) : Option (List Char) :=
  if least < Text.byteLength line && ['"', '"', '"'].isPrefixOf line then some ['"', '"', '"']
  else none

def keyQuote? (line : List Char) : Option (List Char) :=
  match line.head? with
  | some '"' => (tripleQuote? 6 line).or (some ['"'])
  | some '\x60' => some ['\x60']
  | _ => none

def valueQuote? (line : List Char) : Option (List Char) :=
  (tripleQuote? 3 line).or (if line.head? = some '\x60' then some ['\x60'] else none)

def afterDelimiter? (cs : List Char) : Option (List Char × List Char) :=
  let name := cs.takeWhile fun c => c ≠ '=' && c ≠ ':'
  if name.length < cs.length then some (name, cs.drop (name.length + 1)) else none

def key (line : List Char) : Except SectionsError (List Char × List Char) :=
  let shown := String.ofList line
  match keyQuote? line with
  | none =>
      match afterDelimiter? line with
      | some (name, rest) => .ok (Text.trimBlank name, rest)
      | none => .error (.noDelimiter shown)
  | some quote =>
      let inner := line.drop quote.length
      match Text.indexOf quote inner with
      | none => .error (.openKey shown)
      | some n =>
          match afterDelimiter? (inner.drop (n + quote.length)) with
          | some (_, rest) => .ok (Text.trimBlank (inner.take n), rest)
          | none => .error (.noDelimiter shown)

def afterQuote (quote start : List Char) :
    List (List Char) → Except SectionsError (List (List Char))
  | [] => .error (.openValue (String.ofList start) "")
  | [last] =>
      if Text.contains quote last then .ok []
      else .error (.openValue (String.ofList start) (String.ofList last))
  | line :: lines => if Text.contains quote line then .ok lines else afterQuote quote start lines

def afterJoined : List (List Char) → List (List Char)
  | [] => []
  | line :: lines =>
      if (Text.trimBlank line).getLast? = some '\\' then afterJoined lines else lines

def afterValue (text : List Char) (lines : List (List Char)) :
    Except SectionsError (List (List Char)) :=
  let value := Text.trimStartBy Text.isBlank text
  match valueQuote? value with
  | some quote =>
      if Text.contains quote (value.drop quote.length) then .ok lines
      else afterQuote quote value lines
  | none => .ok (if (Text.trimBlank value).getLast? = some '\\' then afterJoined lines else lines)

def check : (fuel : Nat) → List (List Char) → Except SectionsError Unit
  | 0, _ => .ok ()
  | _, [] => .ok ()
  | fuel + 1, line :: lines =>
      let line := Text.trimStartBy Text.isBlank line
      match line with
      | [] => check fuel lines
      | c :: rest =>
          if c = '#' || c = ';' then check fuel lines
          else if c = '[' then
            let name := (rest.reverse.dropWhile (· ≠ ']')).drop 1
            if !rest.contains ']' then .error (.openSection (String.ofList line))
            else if name.isEmpty then .error .emptySection
            else check fuel lines
          else do
            let (name, value) ← key line
            let lines ← afterValue value lines
            if name.isEmpty then .error .emptyKey else check fuel lines

/-- Checks that a text is well formed. A mark of the order of bytes before it does not count. -/
def load (text : String) : Except SectionsError Unit :=
  let cs := text.toList
  let cs := if cs.head? = some '\ufeff' then cs.drop 1 else cs
  check (cs.length + 1) (linesOf cs)

end PageBinding.Settings.Sections
