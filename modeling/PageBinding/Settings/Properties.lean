import PageBinding.Text.Bytes
import PageBinding.Text.Case
import PageBinding.Text.Quoted
import PageBinding.Text.Unfilled
import PageBinding.Value.Data

/-!
Settings as properties: lines with a key and a value, which can refer to other keys and to variables
of the environment.
-/
namespace PageBinding.Settings.Properties

inductive PropertiesError
  | badCode (line : Nat)
  | cutEscape (line : Nat)
  | noKey (line : Nat) (value : String)
  | circular
  | malformed
  | tooDeep
  deriving DecidableEq, Repr

/-! ## Wording -/

def shownValue (value : String) : String :=
  if 10 < value.utf8ByteSize then Text.shown (String.ofList (value.toList.take 10)) ++ "..."
  else Text.shown value

def PropertiesError.message : PropertiesError → String
  | badCode line => atLine line "invalid unicode literal"
  | cutEscape line => atLine line "premature EOF"
  | noKey line value =>
      atLine line (Text.unfilled (shownValue value))
  | circular => "circular reference"
  | malformed => "malformed expression"
  | tooDeep => "expansion too deep"
where
  atLine (line : Nat) (message : String) : String :=
    "properties: Line " ++ toString line ++ ": " ++ message

/-! ## Lines -/

def isGap (c : Char) : Bool :=
  c = ' ' || c = '\t' || c = '\x0c'

def isBreak (c : Char) : Bool :=
  c = '\n' || c = '\r'

def endsKey (c : Char) : Bool :=
  isGap c || isBreak c || c = ':' || c = '='

def unescaped : Char → Char
  | 't' => '\t'
  | 'n' => '\n'
  | 'r' => '\r'
  | 'f' => '\x0c'
  | c => c

def escape (line : Nat) : List Char → Except PropertiesError (Char × List Char)
  | [] => .error (.cutEscape line)
  | 'u' :: rest =>
      let digits := rest.take 4
      if digits.length = 4 && digits.all fun c => (Text.hexValue? c).isSome then
        .ok (Text.charOfCode (digits.foldl (fun n c => 16 * n + (Text.hexValue? c).getD 0) 0),
          rest.drop 4)
      else .error (.badCode line)
  | c :: rest => .ok (unescaped c, rest)

def key (line : Nat) : (fuel : Nat) → List Char → Except PropertiesError (List Char × List Char)
  | 0, cs => .ok ([], cs)
  | _, [] => .ok ([], [])
  | fuel + 1, c :: cs =>
      if c = '\\' then do
        let (c, rest) ← escape line cs
        let r ← key line fuel rest
        return (c :: r.1, r.2)
      else if endsKey c then .ok ([], c :: cs)
      else do
        let r ← key line fuel cs
        return (c :: r.1, r.2)

/-- The value at the beginning of a text, and what follows the end of its line. A backslash at the
end of a line joins the next line to it. -/
def value (line : Nat) : (fuel : Nat) → List Char → Except PropertiesError (List Char × List Char)
  | 0, cs => .ok ([], cs)
  | _, [] => .ok ([], [])
  | fuel + 1, c :: cs =>
      if c = '\\' then
        if cs.head?.any isBreak then value line fuel ((cs.drop 1).dropWhile isGap)
        else do
          let (c, rest) ← escape line cs
          let r ← value line fuel rest
          return (c :: r.1, r.2)
      else if isBreak c then .ok ([], cs)
      else do
        let r ← value line fuel cs
        return (c :: r.1, r.2)

def breaksBefore (rest cs : List Char) : Nat :=
  (cs.take (cs.length - rest.length)).count '\n'

def pairs : (fuel line : Nat) → List Char → Except PropertiesError (List (String × String))
  | 0, _, _ => .ok []
  | _, _, [] => .ok []
  | fuel + 1, line, c :: cs =>
      if isBreak c || isGap c then pairs fuel (if c = '\n' then line + 1 else line) cs
      else if c = '#' || c = '!' then pairs fuel line (cs.dropWhile fun c => !isBreak c)
      else do
        let text := c :: cs
        let (name, rest) ← key line (text.length + 1) text
        let gap := rest.dropWhile isGap
        let gap := if gap.head?.any fun c => c = ':' || c = '=' then gap.drop 1 else gap
        let start := gap.dropWhile isGap
        let here := line + breaksBefore start text
        if rest.isEmpty then
          return if name.isEmpty then [] else [(String.ofList name, "")]
        let (v, after) ← value here (start.length + 1) start
        if name.isEmpty then throw (.noKey here (String.ofList v))
        let more ← pairs fuel (line + breaksBefore after text) after
        return (String.ofList name, String.ofList v) :: more

/-! ## References -/

/-- A text with what stands for each of its references, from the first on. What has been put in is
looked through again. -/
def replaced (meaning : String → Except PropertiesError (List Char)) :
    (fuel : Nat) → List Char → Except PropertiesError (List Char)
  | 0, cs => .ok cs
  | fuel + 1, cs =>
      match Text.indexOf ['$', '\x7b'] cs with
      | none => .ok cs
      | some n => do
          let inner := cs.drop (n + 2)
          let name := inner.takeWhile (· ≠ '\x7d')
          if name.length = inner.length then throw .malformed
          let new ← meaning (String.ofList name)
          replaced meaning fuel (cs.take n ++ new ++ inner.drop (name.length + 1))

def deepest : Nat := 64

def expand (lookup : String → String) :
    (room : Nat) → List String → String → Except PropertiesError (List Char)
  | 0, _, _ => .error .tooDeep
  | room + 1, keys, text =>
      let meaning (name : String) : Except PropertiesError (List Char) :=
        if keys.contains name then .error .circular
        else expand lookup room (name :: keys) (lookup name)
      replaced meaning (100 + text.length * text.length) text.toList

/-! ## Settings -/

def put (name : String) (d : Data) : List (String × Data) → List (String × Data)
  | [] => [(name, d)]
  | f :: fields => if f.1 = name then (name, d) :: fields else f :: put name d fields

def putAt : List String → Data → List (String × Data) → List (String × Data)
  | [], _, fields => fields
  | [last], d, fields => put last d fields
  | first :: path, d, fields =>
      let inner := match fields.lookup first with
        | some (.record inner) => inner
        | _ => []
      put first (.record (putAt path d inner)) fields

/-- The settings of a text. The points in a key divide it into the parts of a path, the last of
which is in lower case. -/
def load (environment : List (String × String)) (text : String) :
    Except PropertiesError (List (String × Data)) := do
  let pairs ← pairs (text.length + 1) 1 text.toList
  let names := (pairs.map Prod.fst).eraseDups
  let latest := pairs.reverse
  let lookup (name : String) : String :=
    ((latest.lookup name).or (environment.lookup name)).getD ""
  let step (fields : List (String × Data)) (name : String) := do
    let text := String.ofList (← expand lookup deepest [name] (lookup name))
    let path := (Text.splitOn '.' name.toList).map String.ofList
    let path := path.dropLast ++ (path.getLast?.map Text.lower).toList
    return putAt path (.string text) fields
  names.foldlM step []

end PageBinding.Settings.Properties
