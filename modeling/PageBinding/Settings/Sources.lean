import PageBinding.Settings.Basic
import PageBinding.Settings.Statement
import PageBinding.Text.Case

/-!
Where settings come from: the command line, the environment and a file, the former before the
latter.
-/
namespace PageBinding.Settings

structure Sources where
  given : List (String × Data) := []
  environment : List (String × String) := []
  file : List (String × Statement) := []
  deriving Inhabited

def variableOf (name : String) : String :=
  let name := name.toList.map fun c => if c = '-' || c = '.' then '_' else c
  "SETVALUE_" ++ Text.upper (String.ofList name)

def names : List String :=
  ["global-context", "log-format", "log-level", "data", "debug"]

def Sources.find? (s : Sources) (name : String) : Option Statement :=
  let inEnvironment := match s.environment.lookup (variableOf name) with
    | some "" => none
    | some text => some (.data (.string text))
    | none => none
  let inFile := (s.file.reverse.lookup name).filter Statement.isPresent
  (((s.given.lookup name).map Statement.data).or inEnvironment).or inFile

def flagsIn (text : String) : List String :=
  ((Text.splitOn ',' text.toList).map fun part => String.ofList (Text.trimBlank part)).filter
    (· ≠ "")

def ofSources (s : Sources) : Settings :=
  let text (name usual : String) : String := ((s.find? name).map Statement.text).getD usual
  let flags := (((s.find? "debug").map Statement.texts).getD []).flatMap flagsIn
  let settings : Settings := {
    global := ((s.find? "global-context").map Statement.int).getD 0
    format := text "log-format" "auto"
    level := text "log-level" "info"
    dataPath := text "data" "" }
  flags.foldl (fun settings flag => settings.setDebug flag true) settings

end PageBinding.Settings
