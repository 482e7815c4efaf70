/-!
The settings of the compiler and of its command.
-/
namespace PageBinding

structure Settings where
  flags : List (String × Bool) := []
  global : Int := 0
  dataPath : String := ""
  format : String := ""
  level : String := ""
  deriving DecidableEq, Repr, Inhabited

namespace Settings

def debug (s : Settings) (flag : String) : Bool :=
  (s.flags.lookup flag).getD false

def setDebug (s : Settings) (flag : String) (state : Bool) : Settings :=
  { s with flags := (flag, state) :: s.flags }

def logFormat (s : Settings) : String :=
  if s.format = "" then "auto" else s.format

def logLevel (s : Settings) : String :=
  if s.level = "" then "info" else s.level

end Settings

end PageBinding
