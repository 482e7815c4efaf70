import PageBinding.Command.Record
import PageBinding.Number.Integer
import PageBinding.Number.Wording

/-!
Flags of a command line.

A flag is written as two dashes and a name. Its value follows an equals sign or is the next
argument; a switch needs no value. Two dashes alone end the flags.
-/
namespace PageBinding.Command

inductive FlagKind
  | text
  | int
  | switch
  | list
  deriving DecidableEq, Repr

structure Flag where
  name : String
  kind : FlagKind
  letter : Option Char := none
  deriving DecidableEq, Repr

inductive FlagValue
  | text (s : String)
  | int (n : Int64)
  | switch (b : Bool)
  | list (parts : List String)
  deriving DecidableEq, Repr

inductive FlagError
  | malformed (argument : String)
  | unknown (name : String)
  | unknownLetter (letter : Char) (letters : String)
  | noValue (argument : String)
  | noLetterValue (letter : Char) (letters : String)
  | invalid (value : String) (flag : Flag) (cause : String)
  deriving DecidableEq, Repr

def Flag.shown (f : Flag) : String :=
  match f.letter with
  | some c => "-" ++ String.singleton c ++ ", --" ++ f.name
  | none => "--" ++ f.name

def FlagError.message : FlagError → String
  | malformed argument => "bad flag syntax: " ++ argument
  | unknown name => "unknown flag: --" ++ name
  | unknownLetter letter letters =>
      "unknown shorthand flag: " ++ Text.shownByte letter ++ " in -" ++ letters
  | noValue argument => "flag needs an argument: " ++ argument
  | noLetterValue letter letters =>
      "flag needs an argument: " ++ Text.shownByte letter ++ " in -" ++ letters
  | invalid value flag cause =>
      "invalid argument " ++ Text.shown value ++ " for " ++ Text.shown flag.shown ++ " flag: " ++ cause

/-! ## Values -/

def truth? (text : String) : Option Bool :=
  if ["1", "t", "T", "TRUE", "true", "True"].contains text then some true
  else if ["0", "f", "F", "FALSE", "false", "False"].contains text then some false
  else none

def Flag.read (f : Flag) (text : String) : Except FlagError FlagValue :=
  match f.kind with
  | .text => .ok (.text text)
  | .int =>
      match Number.readInt text.toList with
      | .ok n => .ok (.int n)
      | .error e => .error (.invalid text f (e.wording "ParseInt" text))
  | .switch =>
      match truth? text with
      | some b => .ok (.switch b)
      | none => .error (.invalid text f (Number.ReadError.malformed.wording "ParseBool" text))
  | .list =>
      if text = "" then .ok (.list [])
      else
        match Record.texts text with
        | .ok ps => .ok (.list ps)
        | .error e => .error (.invalid text f e.message)

/-! ## Arguments -/

/-- What the arguments of a command say: values for flags, in order, and everything else. -/
structure Parsed where
  values : List (String × FlagValue) := []
  arguments : List String := []
  deriving Inhabited

namespace Parsed

def withValue (p : Parsed) (f : Flag) (v : FlagValue) : Parsed :=
  { p with values := (f.name, v) :: p.values }

def withArgument (p : Parsed) (argument : String) : Parsed :=
  { p with arguments := argument :: p.arguments }

def last? (p : Parsed) (name : String) : Option FlagValue :=
  (p.values.filter fun v => v.1 = name).getLast?.map Prod.snd

def text (p : Parsed) (name usual : String) : String :=
  match p.last? name with
  | some (.text s) => s
  | _ => usual

def int (p : Parsed) (name : String) (usual : Int) : Int :=
  match p.last? name with
  | some (.int n) => n.toInt
  | _ => usual

def switch (p : Parsed) (name : String) : Bool :=
  match p.last? name with
  | some (.switch b) => b
  | _ => false

def list? (p : Parsed) (name : String) : Option (List String) :=
  let given := p.values.filterMap fun v =>
    match v with
    | (key, .list ps) => if key = name then some ps else none
    | _ => none
  if given.isEmpty then none else some given.flatten

end Parsed

/-- Reads letters after one dash. A letter that needs a value takes the rest of the letters, or
the next argument. -/
def readLetters (flags : List Flag) :
    (letters : List Char) → (arguments : List String) →
    Except FlagError (List (Flag × FlagValue) × List String)
  | [], arguments => .ok ([], arguments)
  | c :: rest, arguments =>
      let letters := String.ofList (c :: rest)
      match flags.find? fun f => f.letter = some c with
      | none => .error (.unknownLetter c letters)
      | some f =>
          let one (text : String) (arguments : List String) :=
            (f.read text).map fun v => ([(f, v)], arguments)
          match rest, arguments with
          | '=' :: value@(_ :: _), _ => one (String.ofList value) arguments
          | _, _ =>
              if f.kind = .switch then
                match f.read "true", readLetters flags rest arguments with
                | .ok v, .ok r => .ok ((f, v) :: r.1, r.2)
                | .error e, _ => .error e
                | _, .error e => .error e
              else match rest, arguments with
                | [], value :: arguments => one value arguments
                | [], [] => .error (.noLetterValue c letters)
                | rest, _ => one (String.ofList rest) arguments

def readName (flags : List Flag) (argument : String) (arguments : List String) :
    Except FlagError ((Flag × FlagValue) × List String) :=
  let body := argument.toList.drop 2
  let name := String.ofList (body.takeWhile (· ≠ '='))
  if body.head? = some '-' || body.head? = some '=' then .error (.malformed argument)
  else match flags.find? fun f => f.name = name with
    | none => .error (.unknown name)
    | some f =>
        let one (text : String) (arguments : List String) :=
          (f.read text).map fun v => ((f, v), arguments)
        if body.contains '=' then one (String.ofList ((body.dropWhile (· ≠ '=')).drop 1)) arguments
        else if f.kind = .switch then one "true" arguments
        else match arguments with
          | value :: arguments => one value arguments
          | [] => .error (.noValue argument)

def readAll (flags : List Flag) : (fuel : Nat) → List String → Except FlagError Parsed
  | 0, _ => .ok {}
  | _, [] => .ok {}
  | fuel + 1, argument :: arguments =>
      match argument.toList with
      | ['-', '-'] => .ok { arguments }
      | '-' :: '-' :: _ =>
          match readName flags argument arguments with
          | .error e => .error e
          | .ok ((f, v), arguments) => (readAll flags fuel arguments).map (·.withValue f v)
      | '-' :: c :: letters =>
          match readLetters flags (c :: letters) arguments with
          | .error e => .error e
          | .ok (values, arguments) =>
              (readAll flags fuel arguments).map fun p =>
                values.foldr (fun fv p => p.withValue fv.1 fv.2) p
      | _ => (readAll flags fuel arguments).map (·.withArgument argument)

def parse (flags : List Flag) (arguments : List String) : Except FlagError Parsed :=
  readAll flags (arguments.length + 1) arguments

end PageBinding.Command
