import PageBinding.Text.Blank
import PageBinding.Text.Replace
import PageBinding.Value.Data

/-!
Settings as variables: lines with a name and a value, which can refer to earlier lines and to
variables of the environment.
-/
namespace PageBinding.Settings.Variables

inductive LineError
  | unset (line : String)
  | badFormat (line : String)
  deriving DecidableEq, Repr

def LineError.message : LineError → String
  | unset line => "line \x60" ++ line ++ "\x60 has an unset variable"
  | badFormat line => "line \x60" ++ line ++ "\x60 doesn't match format"

abbrev Known := List (String × String)

def isGap (c : Char) : Bool :=
  c = ' ' || c = '\t' || c = '\n' || c = '\x0c' || c = '\r'

def isNameChar (c : Char) : Bool :=
  c.isAlphanum || c = '_' || c = '.'

def isOver (cs : List Char) : Bool :=
  (cs.dropWhile isGap).head?.all (· = '#')

/-- The quoted value at the beginning of a text, up to the last quote after which nothing but a
comment is left. -/
def quoted? (quote : Char) (cs : List Char) : Option (List Char) :=
  let ends := (List.range cs.length).reverse.find? fun n =>
    0 < n && cs[n]? = some quote && isOver (cs.drop (n + 1))
  ends.map fun n => cs.take (n + 1)

def valueIn (cs : List Char) : List Char :=
  let found := match cs.head? with
    | some '\'' => quoted? '\'' cs
    | some '"' => quoted? '"' cs
    | _ => none
  found.getD (cs.takeWhile (· ≠ '#'))

def assignment? (cs : List Char) : Option (String × List Char) :=
  let name := cs.takeWhile isNameChar
  let rest := cs.drop name.length
  if name.isEmpty then none
  else match rest.dropWhile isGap, rest with
    | '=' :: value, _ => some (String.ofList name, valueIn (value.dropWhile isGap))
    | _, ':' :: c :: value => if isGap c then some (String.ofList name, valueIn value) else none
    | _, _ => none

/-- The name and the value of a line, before which there may be a word that exports them. -/
def line? (cs : List Char) : Option (String × List Char) :=
  let cs := cs.dropWhile isGap
  let exported := match Text.dropStart? "export".toList cs with
    | some rest => if rest.head?.any isGap then assignment? (rest.dropWhile isGap) else none
    | none => none
  exported.or (assignment? cs)

/-! ## Values -/

def unquoted (cs : List Char) : List Char :=
  let isQuote (c : Char) : Bool := c = '"' || c = '\''
  if 2 ≤ cs.length && cs.head?.any isQuote && cs.getLast?.any isQuote then (cs.drop 1).dropLast
  else cs

def withoutEscapes : List Char → List Char
  | '\\' :: c :: cs => if c = '$' then '\\' :: withoutEscapes (c :: cs) else c :: withoutEscapes cs
  | c :: cs => c :: withoutEscapes cs
  | [] => []
termination_by cs => cs.length

/-- What a reference stands for, and how many characters it takes. The dollar sign is not among
them. -/
def reference (lookup : String → String) (cs : List Char) : List Char × Nat :=
  let opening := if cs.head? = some '\x7b' then 1 else 0
  let isName (c : Char) : Bool := c.isUpper || c.isDigit || c = '_'
  let name := (cs.drop opening).takeWhile isName
  let closing := if (cs.drop (opening + name.length)).head? = some '\x7d' then 1 else 0
  let width := opening + name.length + closing
  (if name.isEmpty then '$' :: cs.take width else (lookup (String.ofList name)).toList, width)

/-- A text with what its references stand for. A backslash before a reference keeps it, and is left
out. -/
def expanded (lookup : String → String) (kept : Bool) : (fuel : Nat) → List Char → List Char
  | 0, cs => cs
  | _, [] => []
  | fuel + 1, '\\' :: '$' :: cs =>
      let width := (reference lookup cs).2
      '$' :: (cs.take width ++ expanded lookup kept fuel (cs.drop width))
  | fuel + 1, '$' :: cs =>
      let r := reference lookup cs
      (if kept then '$' :: cs.take r.2 else r.1) ++ expanded lookup kept fuel (cs.drop r.2)
  | fuel + 1, c :: cs => c :: expanded lookup kept fuel cs

def valueText (lookup : String → String) (raw : List Char) : List Char :=
  let isSpace (c : Char) : Bool := c = ' '
  let inner := unquoted (Text.trimEndBy isSpace (Text.trimStartBy isSpace raw))
  let plain := if raw.head? = some '"' then
      let inner := Text.replaceAt ['\\', 'n'] ['\n'] 0 inner
      withoutEscapes (Text.replaceAt ['\\', 'r'] ['\r'] 0 inner)
    else inner
  expanded lookup (raw.head? = some '\'') (plain.length + 1) plain

/-! ## Lines -/

def checkFormat (line : List Char) (known : Known) : Except LineError Unit :=
  let text := Text.trimBlank line
  let exported := if "export".toList.isPrefixOf text then
      (text.dropWhile (· ≠ ' ')).drop 1
    else []
  let isNamed := text.contains ' ' && "export".toList.isPrefixOf text
  if text.isEmpty || text.head? = some '#' then .ok ()
  else if isNamed && (known.lookup (String.ofList exported)).isNone then
    .error (.unset (String.ofList text))
  else .error (.badFormat (String.ofList line))

/-- The variables after one more line. A value with lines of its own, and an equals sign somewhere,
is only its first line; the others are taken for lines with variables, as far as they are. -/
def addLine (environment : List (String × String)) :
    (fuel : Nat) → List Char → Known → Except LineError Known
  | 0, _, known => .ok known
  | fuel + 1, line, known =>
      match line? line with
      | none => do
          checkFormat line known
          return known
      | some (name, raw) =>
          let lookup (name : String) : String :=
            ((known.lookup name).or (environment.lookup name)).getD ""
          let text := valueText lookup raw
          let parts := if text.contains '\n' then Text.splitOn '\n' text else Text.splitOn '\r' text
          match parts with
          | first :: more@(_ :: _) =>
              if text.contains '=' then
                let add (known : Known) (part : List Char) : Known :=
                  match addLine environment fuel part known with
                  | .ok known => known
                  | .error _ => known
                .ok ((name, String.ofList first) :: more.foldl add known)
              else .ok ((name, String.ofList text) :: known)
          | _ => .ok ((name, String.ofList text) :: known)

/-- The lines of a text, without the carriage returns at their ends. A mark of the order of bytes
before the first does not count. -/
def linesOf (text : List Char) : List (List Char) :=
  let withoutReturn (line : List Char) : List Char :=
    if line.getLast? = some '\r' then line.dropLast else line
  match (Text.lines text).map withoutReturn with
  | ('\ufeff' :: first) :: lines => first :: lines
  | lines => lines

def load (environment : List (String × String)) (text : String) :
    Except LineError (List (String × Data)) := do
  let known ← (linesOf text.toList).foldlM
    (fun known line => addLine environment (line.length + 1) line known) []
  return known.reverse.map fun v => (v.1, .string v.2)

end PageBinding.Settings.Variables
