/-!
What a command asks of its surroundings while it runs: files, and its input. Everything else about
it is a function, so that it can be run against a file system or against a table of texts.
-/
namespace PageBinding.Command

inductive FileCause
  | missing
  | isDirectory
  | inFile
  | forbidden
  deriving DecidableEq, Repr

structure FileProblem where
  path : String
  cause : FileCause
  deriving DecidableEq, Repr

def FileProblem.message (p : FileProblem) : String :=
  match p.cause with
  | .missing => "open " ++ p.path ++ ": no such file or directory"
  | .isDirectory => "read " ++ p.path ++ ": is a directory"
  | .inFile => "open " ++ p.path ++ ": not a directory"
  | .forbidden => "open " ++ p.path ++ ": permission denied"

inductive Ask (α : Type)
  | answer (a : α)
  | readFile (path : String) (next : Except FileProblem String → Ask α)
  | readInput (next : String → Ask α)

namespace Ask

def bind {α β : Type} (m : Ask α) (f : α → Ask β) : Ask β :=
  match m with
  | answer a => f a
  | readFile path next => readFile path fun r => (next r).bind f
  | readInput next => readInput fun s => (next s).bind f

instance : Monad Ask where
  pure := answer
  bind := bind

def file (path : String) : Ask (Except FileProblem String) :=
  readFile path answer

def input : Ask String :=
  readInput answer

def runWith {α : Type} (files : String → Except FileProblem String) (text : String) :
    Ask α → α
  | answer a => a
  | readFile path next => runWith files text (next (files path))
  | readInput next => runWith files text (next text)

end Ask

end PageBinding.Command
