import PageBinding.Command.Basic
import PageBinding.Log.Time
import Std.Time.DateTime.Timestamp

/-!
The command line.
-/
namespace PageBinding.Command

def causeOf : IO.Error → FileCause
  | .permissionDenied .. => .forbidden
  | .inappropriateType .. => .isDirectory
  | _ => .missing

def readText (path : String) : IO (Except FileProblem String) := do
  try
    return .ok (← IO.FS.readFile path)
  catch e => return .error ⟨path, causeOf e⟩

partial def readRest (stream : IO.FS.Stream) (text : String) : IO String := do
  let line ← stream.getLine
  if line.isEmpty then return text
  readRest stream (text ++ line)

def Ask.perform {α : Type} : Ask α → IO α
  | answer a => return a
  | readFile path next => do (next (← readText path)).perform
  | readInput next => do
      let text ← readRest (← IO.getStdin) ""
      (next text).perform

def environment : IO (List (String × String)) := do
  Settings.names.filterMapM fun name => do
    return (← IO.getEnv (Settings.variableOf name)).map fun value =>
      (Settings.variableOf name, value)

end PageBinding.Command

open PageBinding Command in
def main (arguments : List String) : IO UInt32 := do
  let seconds := (← Std.Time.Timestamp.now).toSecondsSinceUnixEpoch.val
  match ← (Command.start arguments (← environment) (Log.timeText seconds)).perform with
  | .error _ => return 2
  | .ok outcome =>
      (← IO.getStdout).putStr outcome.output
      (← IO.getStderr).putStr outcome.notes
      match outcome.error with
      | none => return 0
      | some e =>
          (← IO.getStderr).putStr ("setvalue: " ++ e.message ++ "\n")
          return 1
