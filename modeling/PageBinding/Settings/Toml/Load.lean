import PageBinding.Number.Integer
import PageBinding.Number.Wording
import PageBinding.Settings.Toml.Node
import PageBinding.Settings.Toml.Path

/-!
Settings as TOML: names and values on lines of their own, in tables.
-/
namespace PageBinding.Settings.Toml

inductive Cause
  | token (message : String)
  | unexpected
  | expectedTable (found : Token)
  | expectedTables (found : Token)
  | expected (sign : String) (found : Token)
  | duplicateTable
  | badPath (e : PathError)
  | inTheWay (path : List String) (key : String) (value : String) (given : Position)
  | notTables (found : Token)
  | unknownTable (path : List String)
  | definedTwice (path : List String)
  | noValue
  | twoEquals
  | noSuchValue
  | badUnderscore (hexadecimal : Bool)
  | number (reader text : String) (e : Number.ReadError)
  | time (e : TimeError)
  | openList
  | mixedTypes
  | missingComma
  | openTable
  | tableComma
  | firstComma
  | twoCommas
  | lastComma
  | unexpectedEntry (found : Token)
  deriving DecidableEq, Repr

def Cause.message : Cause → String
  | token message => message
  | unexpected => "unexpected token"
  | expectedTable found => "unexpected token " ++ found.message ++ ", was expecting a table key"
  | expectedTables found =>
      "unexpected token " ++ found.message ++ ", was expecting a table array key"
  | expected sign found =>
      "was expecting token " ++ sign ++ ", but got " ++ found.message ++ " instead"
  | duplicateTable => "duplicated tables"
  | badPath e => "invalid table array key: " ++ e.message
  | inTheWay path key value given =>
      "unknown type for path " ++ joined path ++ " (" ++ key
        ++ "): *toml.tomlValue (&toml.tomlValue\x7b" ++ "value:" ++ value ++ ", comment:\"\", commented:false, multiline:false, "
        ++ "position:toml.Position\x7bLine:" ++ toString given.line ++ ", Col:"
        ++ toString given.column ++ "\x7d\x7d)"
  | notTables found =>
      "key " ++ found.message ++ " is already assigned and not of type table array"
  | unknownTable path => "Unknown table type for path: " ++ joined path
  | definedTwice path => "The following key was defined twice: " ++ joined path
  | noValue => "expecting a value"
  | twoEquals => "cannot have multiple equals for the same key"
  | noSuchValue => "never reached"
  | badUnderscore hexadecimal =>
      "invalid use of _ in " ++ (if hexadecimal then "hex number" else "number")
  | number reader text e => e.wording reader text
  | time e => e.message
  | openList => "unterminated array"
  | mixedTypes => "mixed types in array"
  | missingComma => "missing comma"
  | openTable => "unterminated inline table"
  | tableComma => "comma expected between fields in inline table"
  | firstComma => "inline table cannot start with a comma"
  | twoCommas => "need field between two commas in inline table"
  | lastComma => "trailing comma at the end of inline table"
  | unexpectedEntry found => "unexpected token type in inline table: " ++ found.message
where
  joined (path : List String) : String := String.intercalate "." path

inductive TomlError
  | located (position : Position) (cause : Cause)
  | badBase
  deriving DecidableEq, Repr

def TomlError.message : TomlError → String
  | located p cause =>
      "(" ++ toString p.line ++ ", " ++ toString p.column ++ "): " ++ cause.message
  | badBase => "invalid base"

abbrev Read := EStateM TomlError (List Token)

namespace Read

def peek : Read Token := do
  return ((← get).head?).getD ⟨.stop, 1, 1⟩

def take : Read Token := do
  let t ← peek
  modify (·.drop 1)
  return t

def fail {α : Type} (t : Token) (cause : Cause) : Read α :=
  throw (.located t.position cause)

def expect (kind : TokenKind) (sign : String) : Read Unit := do
  let t ← take
  if t.kind ≠ kind then fail t (.expected sign t)

/-! ## Numbers -/

/-- Whether each underscore in a number stands between two characters that it can divide. -/
def underscoresFit (divides : Char → Bool) (cs : List Char) : Bool :=
  let neighbours := (none :: cs.map some).zip (cs.zip (cs.drop 1 |>.map some |> (· ++ [none])))
  neighbours.all fun (before, c, after) =>
    c ≠ '_' || (before.any divides && after.any divides)

def integer (t : Token) (text : String) : Read Node := do
  let cleaned := text.toList.filter (· ≠ '_')
  let mark := cleaned[1]?.getD ' '
  let based := 3 ≤ cleaned.length && cleaned.head? = some '0'
  let hexadecimal := based && mark = 'x'
  let divides (c : Char) : Bool := c.isDigit || (hexadecimal && 'a' ≤ c && c ≤ 'f')
  if based && mark ≠ 'x' && mark ≠ 'o' && mark ≠ 'b' then throw .badBase
  if !underscoresFit divides text.toList then fail t (.badUnderscore hexadecimal)
  let digits := if based then cleaned.drop 2 else cleaned
  let base := if !based then 10 else if mark = 'x' then 16 else if mark = 'o' then 8 else 2
  match Number.readIntIn base digits with
  | .ok n => return .int n
  | .error e => fail t (.number "ParseInt" (String.ofList digits) e)

def float (t : Token) (text : String) : Read Node := do
  if !underscoresFit Char.isDigit text.toList then fail t (.badUnderscore false)
  let cleaned := text.toList.filter (· ≠ '_')
  match Number.read cleaned with
  | .ok x => return .float x
  | .error e => fail t (.number "ParseFloat" (String.ofList cleaned) e)

/-! ## Values -/

mutual

def value : (fuel : Nat) → Read Node
  | 0 => return .list []
  | fuel + 1 => do
      let t ← take
      match t.kind with
      | .stop => fail t .noValue
      | .string s => return .text s
      | .bool b => return .bool b
      | .infinity s =>
          return .float (if Text.startsWith s "-" then Number.negativeInfinity else Number.infinity)
      | .nan _ => return .float Number.nan
      | .integer s => integer t s
      | .float s => float t s
      | .time s =>
          match Time.read s with
          | .ok time => return .time time
          | .error e => fail t (.time e)
      | .leftBracket => return .ofItems (← items none fuel)
      | .leftBrace => return .table (← entries none [] fuel)
      | .equal => fail t .twoEquals
      | .bad message => fail t (.token message)
      | _ => fail t .noSuchValue

def items (kind : Option Nat) : (fuel : Nat) → Read (List Node)
  | 0 => return []
  | fuel + 1 => do
      let t ← peek
      match t.kind with
      | .stop => fail t .openList
      | .rightBracket => let _ ← take; return []
      | _ =>
          let x ← value fuel
          if (kind.getD x.kindNumber) ≠ x.kindNumber then fail t .mixedTypes
          let follow ← peek
          match follow.kind with
          | .stop => fail follow .openList
          | .comma => let _ ← take; return x :: (← items (some x.kindNumber) fuel)
          | .rightBracket => return x :: (← items (some x.kindNumber) fuel)
          | _ => fail follow .missingComma

def entries (last : Option Token) (found : Entries) : (fuel : Nat) → Read Entries
  | 0 => return found
  | fuel + 1 => do
      let t ← peek
      let isComma (t : Token) : Bool := t.kind = .comma
      match t.kind with
      | .stop => fail t .openTable
      | .rightBrace =>
          let _ ← take
          if let some comma := last.filter isComma then fail comma .lastComma
          return found
      | .key key =>
          if !last.all isComma then fail t .tableComma
          let _ ← take
          expect .equal "="
          let x ← value fuel
          let path := (Text.splitOn '.' key.toList).map String.ofList
          entries (some t) (found.putAt path ({}, x)) fuel
      | .comma =>
          if last.isNone then fail t .firstComma
          if last.any isComma then fail t .twoCommas
          let _ ← take
          entries (some t) found fuel
      | _ => fail t (.unexpectedEntry t)

end

/-! ## Tables -/

/-- What has been read: all tables, the path of the current one, and the names of tables. -/
structure Progress where
  root : Entries := []
  current : List String := []
  seen : List String := []

def pathOf (t : Token) (name : String) : Read (List String) :=
  match path name with
  | .ok p => return p
  | .error e => fail t (.badPath e)

def table (p : Progress) : Read Progress := do
  let _ ← take
  let t ← take
  match t.kind with
  | .tableName name =>
      if p.seen.contains name then fail t .duplicateTable
      let path ← pathOf t name
      if let some (key, given, n) := p.root.obstacle? path then
        fail t (.inTheWay path key n.shown given)
      expect .rightBracket "]"
      return { root := p.root.update id path, current := path, seen := name :: p.seen }
  | _ => fail t (.expectedTable t)

/-- Reads the name of one more of several tables. The names of the tables in them can come again. -/
def tables (p : Progress) : Read Progress := do
  let _ ← take
  let t ← take
  match t.kind with
  | .tableName name =>
      let path ← pathOf t name
      let root := if (p.root.obstacle? path.dropLast).isNone then p.root.update id path.dropLast
        else p.root
      let before ← match root.get? path with
        | none => pure []
        | some (.tables all) => pure all
        | some _ => fail t (.notTables t)
      let inner := p.seen.filter fun s => !Text.startsWith s (name ++ ".")
      expect .doubleRight "[["
      return {
        root := root.putAt path ({}, .tables (before ++ [[]]))
        current := path
        seen := name :: inner }
  | _ => fail t (.expectedTables t)

def assignment (p : Progress) (key : String) : Read Progress := do
  let t ← take
  expect .equal "="
  let x ← value (2 * (← get).length + 2)
  let target ← match p.root.get? p.current with
    | some (.table entries) => pure entries
    | some (.tables all) => pure (all.getLast?.getD [])
    | _ => fail t (.unknownTable p.current)
  if (target.lookup key).isSome then fail t (.definedTwice (p.current ++ [key]))
  return { p with root := p.root.update (Entries.put key (t.position, x)) p.current }

def lines : (fuel : Nat) → Progress → Read Entries
  | 0, p => return p.root
  | fuel + 1, p => do
      let t ← peek
      match t.kind with
      | .stop => return p.root
      | .leftBracket => lines fuel (← table p)
      | .doubleLeft => lines fuel (← tables p)
      | .key key => lines fuel (← assignment p key)
      | _ => fail t .unexpected

end Read

def load (text : String) : Except TomlError Entries :=
  let tokens := tokens text
  match EStateM.run (Read.lines (tokens.length + 1) {}) tokens with
  | .ok root _ => .ok root
  | .error e _ => .error e

end PageBinding.Settings.Toml
