import PageBinding.Log.Entry
import PageBinding.Text.Case
import PageBinding.Text.Quoted

/-!
How log entries are written: as pairs of names and values, as objects, or for people to read.
-/
namespace PageBinding.Log

inductive Format
  | pairs
  | object
  | columns
  deriving DecidableEq, Repr, Inhabited

inductive ConfigError
  | unknownFormat (name : String)
  | unknownLevel (name : String)
  deriving DecidableEq, Repr

def ConfigError.message : ConfigError → String
  | unknownFormat name => "unknown logging format: " ++ name
  | unknownLevel name => "unrecognized level: " ++ Text.shown name

def Level.ofName (name : String) : Except ConfigError Level :=
  match Level.all.find? fun level => level.name = Text.lower name with
  | some level => .ok level
  | none => .error (.unknownLevel name)

def Format.ofName (name : String) : Except ConfigError Format :=
  match name with
  | "auto" => .ok .pairs
  | "logfmt" => .ok .pairs
  | "json" => .ok .object
  | "console" => .ok .columns
  | _ => .error (.unknownFormat name)

structure Config where
  format : String := "auto"
  level : Level := .info
  deriving DecidableEq, Repr, Inhabited

def Config.ofNames (format level : String) : Except ConfigError Config := do
  let usual : Config := {}
  let format := if format = "" then usual.format else format
  if level = "" then return { format }
  return { format, level := ← Level.ofName level }

/-! ## Values -/

def escaped (c : Char) : List Char :=
  if c = '\\' || c = '"' then ['\\', c]
  else if c = '\n' then ['\\', 'n']
  else if c = '\r' then ['\\', 'r']
  else if c = '\t' then ['\\', 't']
  else if c.toNat < 0x20 then '\\' :: 'u' :: '0' :: '0' :: Text.hex 2 c.toNat
  else [c]

def escapedText (s : String) : String :=
  String.ofList (s.toList.flatMap escaped)

def quotedText (s : String) : String :=
  "\"" ++ escapedText s ++ "\""

def needsQuotes (c : Char) : Bool :=
  c ≤ ' ' || c = '=' || c = '"' || c = '\ufffd'

def pairText (s : String) : String :=
  if s.toList.any needsQuotes then quotedText s else escapedText s

def thousandths (n : Nat) : List Char :=
  let digits := [n / 100, n / 10 % 10, n % 10].map Text.hexDigit
  match (digits.reverse.dropWhile (· = '0')).reverse with
  | [] => []
  | digits => '.' :: digits

/-- A time span: hours, minutes and seconds from the first that is not zero on, or milliseconds
alone. -/
def spanText (milliseconds : Int) : String :=
  let n := milliseconds.natAbs
  let sign := if milliseconds < 0 then "-" else ""
  let seconds := n / 1000
  let rest := toString (seconds % 60) ++ String.ofList (thousandths (n % 1000)) ++ "s"
  let minutes := toString (seconds / 60 % 60) ++ "m"
  if n = 0 then "0s"
  else if n < 1000 then sign ++ toString n ++ "ms"
  else if seconds < 60 then sign ++ rest
  else if seconds < 3600 then sign ++ minutes ++ rest
  else sign ++ toString (seconds / 3600) ++ "h" ++ minutes ++ rest

def FieldValue.pair : FieldValue → String
  | text s => pairText s
  | int n => toString n
  | bool b => if b then "true" else "false"
  | span n => pairText (spanText n)

def FieldValue.member : FieldValue → String
  | text s => quotedText s
  | int n => toString n
  | bool b => if b then "true" else "false"
  | span n => quotedText (spanText n)

/-! ## Lines -/

def members (comma colon : String) (fields : List (String × String)) : String :=
  "\x7b" ++ Text.joinStrings comma (fields.map fun f => quotedText f.1 ++ colon ++ f.2) ++ "\x7d"

def Entry.line (format : Format) (time : String) (e : Entry) : String :=
  match format with
  | .pairs =>
      let head := [("ts", pairText time), ("level", pairText e.level.name),
        ("msg", pairText e.message)]
      let pairs := head ++ e.fields.map fun f => (f.1, f.2.pair)
      Text.joinStrings " " (pairs.map fun p => escapedText p.1 ++ "=" ++ p.2) ++ "\n"
  | .object =>
      let head := [("level", quotedText e.level.name), ("ts", quotedText time),
        ("msg", quotedText e.message)]
      members "," ":" (head ++ e.fields.map fun f => (f.1, f.2.member)) ++ "\n"
  | .columns =>
      let fields := match e.fields with
        | [] => []
        | fields => [members ", " ": " (fields.map fun f => (f.1, f.2.member))]
      Text.joinStrings "\t" ([time, e.level.name, e.message] ++ fields) ++ "\n"

structure Writer where
  format : Format
  level : Level
  time : String
  deriving Inhabited

def Config.writer (c : Config) (time : String) : Except ConfigError Writer := do
  return ⟨← Format.ofName c.format, c.level, time⟩

def Writer.text (w : Writer) (entries : List Entry) : String :=
  let kept := entries.filter fun e => w.level.rank ≤ e.level.rank
  String.join (kept.map (Entry.line w.format w.time))

end PageBinding.Log
