import PageBinding.Settings.Toml.Token

/-!
The names of tables: paths whose parts stand between points.
-/
namespace PageBinding.Settings.Toml

inductive PathError
  | emptyPart
  | badChar (c : Char)
  | noPoint
  | openQuote
  | openEscape
  | empty
  deriving DecidableEq, Repr

def PathError.message : PathError → String
  | emptyPart => "empty table key"
  | badChar c => "invalid bare character: " ++ String.singleton c
  | noPoint => "what?"
  | openQuote => "mismatched quotes"
  | openEscape => "unfinished escape sequence"
  | empty => "empty key"

structure PathReader where
  parts : List String := []
  part : List Char := []
  inQuotes : Bool := false
  wasQuoted : Bool := false
  escaped : Bool := false
  atStart : Bool := true
  isOver : Bool := false

namespace PathReader

def close (r : PathReader) : PathReader :=
  { r with parts := String.ofList r.part.reverse :: r.parts, part := [] }

def step (r : PathReader) (c : Char) : Except PathError PathReader := do
  if r.atStart && c = ' ' then return r
  let r := { r with atStart := false }
  let kept := { r with part := c :: r.part }
  if r.escaped then return { kept with escaped := false }
  if c = '\\' then return { r with escaped := true }
  if c = '"' then
    let r := if r.inQuotes then { r.close with wasQuoted := true } else r
    return { r with inQuotes := !r.inQuotes, isOver := false }
  if r.inQuotes then return if c = '.' || c = ' ' then kept else { kept with isOver := false }
  if c = '.' then
    if !r.wasQuoted && r.part.isEmpty then throw .emptyPart
    let r := if r.wasQuoted then r else r.close
    return { r with atStart := true, isOver := false, wasQuoted := false }
  if c = ' ' then return { r with isOver := true }
  if !isBare c then throw (.badChar c)
  if r.isOver then throw .noPoint
  return { kept with isOver := false }

def finish (r : PathReader) : Except PathError (List String) :=
  if r.inQuotes then .error .openQuote
  else if r.escaped then .error .openEscape
  else
    let parts := (if r.part.isEmpty then r else r.close).parts
    if parts.isEmpty then .error .empty else .ok parts.reverse

end PathReader

def path (name : String) : Except PathError (List String) := do
  (← name.toList.foldlM PathReader.step {}).finish

end PageBinding.Settings.Toml
