import PageBinding.Command.Ask
import PageBinding.Command.Flag
import PageBinding.Log.Format
import PageBinding.Page.Compile
import PageBinding.Run.Data
import PageBinding.Settings.File
import PageBinding.Settings.Sources

/-!
The command: compiling bindings, and letting an event happen on a page.
-/
namespace PageBinding.Command

def version : String := "0.3.0"

inductive CommandError
  | flag (cause : FlagError)
  | unknownCommand (name place : String) (suggestions : List String)
  | settings (cause : Settings.FileError)
  | log (cause : Log.ConfigError)
  | file (cause : FileProblem)
  | data (cause : DataError)
  | page (cause : PageError)
  | render (message : String)
  | noPage
  | noSelector
  | notCompiled

def CommandError.message : CommandError → String
  | flag cause => cause.message
  | unknownCommand name place suggestions =>
      let hint := match suggestions with
        | [] => ""
        | names => "\n\nDid you mean this?\n" ++ String.join (names.map fun n => "\t" ++ n ++ "\n")
      "unknown command " ++ Text.shown name ++ " for " ++ Text.shown place ++ hint
  | settings cause => cause.message
  | log cause => cause.message
  | file cause => cause.message
  | data cause => cause.message
  | page cause => cause.message
  | render message => message
  | noPage => "--page is required"
  | noSelector => "--on is required"
  | notCompiled => "compilation failed"

structure Outcome where
  error : Option CommandError := none
  output : String := ""
  notes : String := ""

def Outcome.failed (e : CommandError) : Outcome :=
  { error := some e }

/-! ## Commands and their flags -/

inductive Name
  | compile
  | run
  | version
  | help
  | completion
  deriving DecidableEq, Repr

namespace Name

def all : List Name :=
  [compile, run, version, help, completion]

def text : Name → String
  | compile => "compile"
  | run => "run"
  | version => "version"
  | help => "help"
  | completion => "completion"

end Name

def commonFlags : List Flag :=
  [⟨"config", .text, none⟩, ⟨"global-context", .int, none⟩, ⟨"log-format", .text, none⟩,
    ⟨"log-level", .text, none⟩, ⟨"debug", .list, none⟩]

def helpFlag : Flag := ⟨"help", .switch, some 'h'⟩

def flagsOf : Option Name → List Flag
  | some .compile => ⟨"context", .int, none⟩ :: commonFlags
  | some .run =>
      [⟨"page", .text, none⟩, ⟨"data", .text, none⟩, ⟨"on", .text, none⟩, ⟨"event", .text, none⟩,
        ⟨"detail", .text, none⟩, ⟨"context", .int, none⟩, ⟨"html", .switch, none⟩] ++ commonFlags
  | _ => commonFlags

/-! ## Finding the command -/

def takesNext (flags : List Flag) (argument : String) : Bool :=
  match argument.toList with
  | '-' :: '-' :: name =>
      !name.contains '=' &&
        !(flags.any fun f => f.name = String.ofList name && f.kind = .switch)
  | ['-', letter] =>
      letter ≠ '=' && letter.utf8Size = 1 &&
        !(flags.any fun f => f.letter = some letter && f.kind = .switch)
  | _ => false

/-- Whether an argument is written as a flag: a dash and something else, or two dashes and
something. -/
def isDashed (argument : String) : Bool :=
  match argument.toList with
  | '-' :: '-' :: rest => !rest.isEmpty
  | '-' :: _ :: _ => true
  | _ => false

/-- The arguments that are neither flags nor values of flags. A flag whose value is the last
argument ends the search. -/
def words (flags : List Flag) : List String → List String
  | [] => []
  | argument :: rest =>
      if argument = "--" then []
      else if takesNext flags argument then
        match rest with
        | _ :: next :: more => words flags (next :: more)
        | _ => []
      else if argument ≠ "" && !isDashed argument then argument :: words flags rest
      else words flags rest

def dropWord (flags : List Flag) (word : String) : List String → List String
  | [] => []
  | argument :: rest =>
      if argument = "--" then argument :: rest
      else if takesNext flags argument then
        match rest with
        | value :: more => argument :: value :: dropWord flags word more
        | [] => [argument]
      else if argument = word then rest
      else argument :: dropWord flags word rest

/-- One more row of the table of edit distances: `row` has the distances of the beginnings of `ys`
to what stands before `x`. -/
def distanceRow (x : UInt8) (ys : List UInt8) (row : List Nat) : List Nat :=
  match row with
  | [] => []
  | first :: above => (first + 1) :: go (first + 1) first above ys
where
  go (left corner : Nat) : List Nat → List UInt8 → List Nat
    | up :: above, y :: ys =>
        let here := if x = y then corner else 1 + min left (min up corner)
        here :: go here up above ys
    | _, _ => []

/-- How many bytes have to be put in, left out or changed to get from one text to the other. -/
def distance (s t : String) : Nat :=
  let xs := s.toUTF8.toList
  let ys := t.toUTF8.toList
  ((xs.foldl (fun row x => distanceRow x ys row) (List.range (ys.length + 1))).getLast?).getD 0

def suggestions (word : String) : List String :=
  let word := Text.lower word
  let isNear (name : String) : Bool := distance word name ≤ 2 || Text.startsWith name word
  ((Name.all.filter (· ≠ .help)).map Name.text).filter isNear

def find (arguments : List String) : Except CommandError (Option Name × List String) :=
  match words commonFlags arguments with
  | [] => .ok (none, arguments)
  | word :: _ =>
      match Name.all.find? fun n => n.text = word with
      | some name => .ok (some name, dropWord commonFlags word arguments)
      | none => .error (.unknownCommand word "setvalue" (suggestions word))

/-! ## Settings -/

structure Setup where
  settings : Settings
  log : Log.Writer

def givenBy (p : Parsed) : List (String × Data) :=
  p.values.reverse.filterMap fun v =>
    match v with
    | (name, .text s) => some (name, .string s)
    | (name, .int n) => some (name, .int n)
    | (name, .switch b) => some (name, .bool b)
    | (_, .list _) => none

def givenFlags (p : Parsed) : List (String × Data) :=
  match p.list? "debug" with
  | some names => [("debug", .list (names.map .string))]
  | none => []

def readSettings (path : String) (environment : List (String × String)) :
    Ask (Except CommandError (List (String × Settings.Statement))) := do
  if path = "" then return .ok []
  match Settings.formatOf path with
  | .error e => return .error (.settings e)
  | .ok format =>
      match ← Ask.file path with
      | .error e => return .error (.file e)
      | .ok text => return (Settings.fields format environment text).mapError .settings

def loadSettings (path : String) (environment : List (String × String))
    (given : List (String × Data)) : Ask (Except CommandError Settings) := do
  match ← readSettings path environment with
  | .error e => return .error e
  | .ok file => return .ok (.ofSources { given, environment, file })

def prepare (p : Parsed) (environment : List (String × String)) (time : String) :
    Ask (Except CommandError Setup) := do
  match ← loadSettings (p.text "config" "") environment (givenFlags p ++ givenBy p) with
  | .error e => return .error e
  | .ok settings =>
      let log := do
        (← Log.Config.ofNames settings.logFormat settings.logLevel).writer time
      match log with
      | .error e => return .error (.log e)
      | .ok log => return .ok ⟨settings, log⟩

/-! ## Commands -/

def compile (s : Setup) (p : Parsed) : Ask Outcome := do
  let text ← if p.arguments.isEmpty then Ask.input
    else pure (Text.joinStrings "\n" p.arguments)
  let page := Page.new .empty s.settings ⟨false, false, false⟩
  let listing := Page.compile (p.int "context" 1) text page
  let notes := listing.reports.map fun r => s.log.text r.log ++ r.errors
  return {
    error := if listing.ok then none else some .notCompiled
    output := listing.output
    notes := String.join notes }

def bindAll (selector event : String) (bindings : List String) (context : Int) : PageM Unit := do
  Page.bindMarkup context
  for text in bindings do
    Page.bind selector event text context

def happen (selector event : String) (detail : Value) (bindings : List String) (context : Int) :
    PageRun Unit := do
  Page.returning (bindAll selector event bindings context)
  Page.fire selector event detail false context

def results (w : World) (context : Int) (html : Bool) : Except Stuck Outcome := do
  let data ← w.dump context
  if !html then return { output := data }
  match w.document.render with
  | .ok page => return { output := data ++ page.toText ++ "\n" }
  | .error e => return { error := some (.render e), output := data }

def loadWorld (markup : String) (dataPath : String) (context : Int) :
    Ask (Except CommandError World) := do
  let world : World := { World.empty with document := .ofMarkup markup }
  if dataPath = "" then return .ok world
  match ← Ask.file dataPath with
  | .error e => return .error (.file e)
  | .ok text => return (world.load context text).mapError .data

/-- Lets an event happen on a page, unless the programs bound to it never come back. -/
def run (s : Setup) (p : Parsed) : Ask (Except Stuck Outcome) := do
  let path := p.text "page" ""
  let selector := p.text "on" ""
  let context := p.int "context" 1
  let detail : Value := match p.text "detail" "" with
    | "" => .null
    | text => .string text
  if path = "" then return .ok (.failed .noPage)
  if selector = "" then return .ok (.failed .noSelector)
  match ← Ask.file path with
  | .error e => return .ok (.failed (.file e))
  | .ok markup =>
      match ← loadWorld markup s.settings.dataPath context with
      | .error e => return .ok (.failed e)
      | .ok world =>
          let event := p.text "event" "click"
          match (happen selector event detail p.arguments context).run
              (.new world s.settings {}) with
          | .error (.never why) _ => return .error why
          | .error (.failed e) page =>
              return .ok { error := some (.page e), notes := s.log.text page.log }
          | .ok _ page =>
              return (results page.world context (p.switch "html")).map fun outcome =>
                { outcome with notes := s.log.text page.log }

def usage : String :=
  "Usage:
  setvalue compile [flags] [expression...]
  setvalue run [flags] [expression...]
  setvalue version
"

def perform (name : Name) (p : Parsed) (environment : List (String × String)) (time : String) :
    Ask (Except Stuck Outcome) := do
  match name, p.arguments with
  | .version, word :: _ => return .ok (.failed (.unknownCommand word "setvalue version" []))
  | .help, _ => return .ok { output := usage }
  | .completion, _ => return .ok { output := usage }
  | name, _ =>
      match ← prepare p environment time with
      | .error e => return .ok (.failed e)
      | .ok s =>
          match name with
          | .compile => return .ok (← compile s p)
          | .run => run s p
          | _ => return .ok { output := "setvalue " ++ version ++ "\n" }

/-- Runs the command with its arguments, in an environment. Log entries give the given time. -/
def start (arguments : List String) (environment : List (String × String)) (time : String) :
    Ask (Except Stuck Outcome) := do
  match find arguments with
  | .error e => return .ok (.failed e)
  | .ok (name, rest) =>
      match parse (helpFlag :: flagsOf name) rest with
      | .error e => return .ok (.failed (.flag e))
      | .ok p =>
          match name with
          | none => return .ok { output := usage }
          | some name =>
              if p.switch "help" then return .ok { output := usage }
              perform name p environment time

end PageBinding.Command
