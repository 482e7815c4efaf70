import PageBinding.Settings.Hcl.Content
import PageBinding.Settings.Json
import PageBinding.Settings.Properties
import PageBinding.Settings.Sections
import PageBinding.Settings.Statement
import PageBinding.Settings.Toml.Load
import PageBinding.Settings.Variables
import PageBinding.Text.Case
import PageBinding.Yaml.Load

/-!
Settings files: the end of the name of a file tells its format.
-/
namespace PageBinding.Settings

inductive FileFormat
  | json
  | toml
  | yaml
  | hcl
  | properties
  | assignments
  | sections
  deriving DecidableEq, Repr

def fileFormats : List (String × FileFormat) :=
  [("json", .json), ("toml", .toml), ("yaml", .yaml), ("yml", .yaml), ("properties", .properties),
    ("props", .properties), ("prop", .properties), ("hcl", .hcl), ("dotenv", .assignments),
    ("env", .assignments), ("ini", .sections)]

inductive FileError
  | unknownFormat (name : String)
  | json (cause : Json.JsonError)
  | toml (cause : Toml.TomlError)
  | yaml (cause : Yaml.LoadError)
  | hcl (cause : Hcl.ContentError)
  | properties (cause : Properties.PropertiesError)
  | assignments (cause : Variables.LineError)
  | sections (cause : Sections.SectionsError)
  deriving DecidableEq, Repr

def FileError.message : FileError → String
  | unknownFormat name => "Unsupported Config Type " ++ Text.shown name
  | json cause => parsing cause.message
  | toml cause => parsing cause.message
  | yaml cause => parsing cause.message
  | hcl cause => parsing cause.message
  | properties cause => parsing cause.message
  | assignments cause => parsing cause.message
  | sections cause => parsing cause.message
where
  parsing (message : String) : String := "While parsing config: " ++ message

def extension (path : String) : String :=
  let last := (path.toList.reverse.takeWhile (· ≠ '/')).reverse
  if last.contains '.' then String.ofList (last.reverse.takeWhile (· ≠ '.')).reverse else ""

def formatOf (path : String) : Except FileError FileFormat :=
  match fileFormats.lookup (extension path) with
  | some format => .ok format
  | none => .error (.unknownFormat (extension path))

def Toml.Node.statement : Toml.Node → Statement
  | .time t => .time t.text
  | n => .data n.data

/-- What a text in a format says, name by name. Some formats refer to variables of the environment.
-/
def statements (format : FileFormat) (environment : List (String × String)) (text : String) :
    Except FileError (List (String × Statement)) :=
  let plain (fields : List (String × Data)) := fields.map fun f => (f.1, Statement.data f.2)
  match format with
  | .json => ((Json.load text).map plain).mapError .json
  | .toml =>
      let named (root : Toml.Entries) := root.map fun e => (e.1, e.2.2.statement)
      ((Toml.load text).map named).mapError .toml
  | .yaml => ((Yaml.load .settings text).map plain).mapError .yaml
  | .hcl => ((Hcl.load text).map plain).mapError .hcl
  | .properties => ((Properties.load environment text).map plain).mapError .properties
  | .assignments => ((Variables.load environment text).map plain).mapError .assignments
  | .sections => ((Sections.load text).map fun _ => []).mapError .sections

/-- What a text in a format says about settings. The case of their names does not matter, but a name
with letters in upper case counts before the same name without. -/
def fields (format : FileFormat) (environment : List (String × String)) (text : String) :
    Except FileError (List (String × Statement)) := do
  let said ← statements format environment text
  let parts := said.partition fun f => Text.lower f.1 = f.1
  return parts.1 ++ parts.2.map fun f => (Text.lower f.1, f.2)

end PageBinding.Settings
