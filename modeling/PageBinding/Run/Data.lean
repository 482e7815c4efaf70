import PageBinding.Run.Printed
import PageBinding.Yaml.Load
import PageBinding.Yaml.Outline

/-!
The data of a context, read from a file and written as one.
-/
namespace PageBinding

structure DataError where
  context : Int
  cause : Yaml.LoadError
  deriving DecidableEq, Repr

def DataError.message (e : DataError) : String :=
  "loading context " ++ toString e.context ++ ": " ++ e.cause.message

namespace World

def load (w : World) (context : Int) (text : String) : Except DataError World :=
  match Yaml.load .data text with
  | .error cause => .error ⟨context, cause⟩
  | .ok fields => .ok { w with store := w.store.replace context fields }

mutual

/-- The outline of a value. That of an object or an event, which are shared, is given; what has no data
of its own is an empty mapping. -/
def outlineWith (shared : Value → Except Stuck Yaml.Outline) : Value → Except Stuck Yaml.Outline
  | .null => .ok (.plain "null")
  | .undefined => .ok (.record [])
  | .bool b => .ok (.plain (Value.boolText b))
  | .string s => .ok (.text s)
  | .bytes bs => .ok (.binary bs)
  | .number x => .ok (.plain (Yaml.numberText (Number.general x)))
  | .single x => .ok (.plain (Yaml.numberText (Number.generalSingle x)))
  | .int n => .ok (.plain (toString n.toInt))
  | .uint n => .ok (.plain (toString n.toNat))
  | .array items => do return .list (← outlineAll shared items)
  | .object ref => shared (.object ref)
  | .table entries => .ok (.ofData (.table entries))
  | .element _ => .ok (.record [])
  | .event ref => shared (.event ref)

def outlineAll (shared : Value → Except Stuck Yaml.Outline) :
    List Value → Except Stuck (List Yaml.Outline)
  | [] => .ok []
  | v :: vs => do
      let first ← outlineWith shared v
      let rest ← outlineAll shared vs
      return first :: rest

end

/-- The outline of an object or an event. At most `depth` of them are inside one another, unless one is
inside itself. -/
def outlineShared (w : World) : (depth : Nat) → Value → Except Stuck Yaml.Outline
  | 0, _ => .error .overflow
  | depth + 1, .object ref => do
      let fields := ((w.store.heap.get? ref).getD .empty).entries
      let outlines ← outlineAll (w.outlineShared depth) (fields.map fun entry => entry.2)
      let sorted := Yaml.sortKeys (fields.zipWith (fun entry outline => (entry.1, outline)) outlines)
      return .record (sorted.map fun entry => (.text entry.1, entry.2))
  | depth + 1, .event ref =>
      match w.event? ref with
      | none => .ok (.record [])
      | some e => do
          let detail ← outlineWith (w.outlineShared depth) e.detail
          return .record [(.text "type", .text e.type), (.text "detail", detail),
            (.text "path", .list (e.path.map fun _ => .record []))]
  | _ + 1, _ => .ok (.record [])

/-- The data of a context as a file. It cannot be written if an object or an event is inside itself. -/
def dump (w : World) (context : Int) : Except Stuck String := do
  match w.store.context? context with
  | none => return Yaml.Outline.render []
  | some ref =>
      let depth := w.store.heap.objects.size + w.events.size + 1
      match ← w.outlineShared depth (.object ref) with
      | .record entries => return Yaml.Outline.render entries
      | _ => return Yaml.Outline.render []

end World

end PageBinding
