import PageBinding.Run.World

/-!
Values printed on one line, as the markup gets them.

The document is held while it is written to. Printing an element asks the document for the element's
id, so it waits for a document that only the printing itself could let go. Printing an object that is
inside itself finds no end either.
-/
namespace PageBinding

/-- Why something never comes back. -/
inductive Stuck
  | locked
  | overflow
  deriving DecidableEq, Repr

namespace World

def printedAddress (w : World) (ref : EventRef) : List UInt8 :=
  Text.toBytes (String.ofList ('0' :: 'x' :: Nat.toDigits 16 (w.addresses ref.index)))

mutual

/-- A value that may be inside another. How an object is printed is given. -/
def printedWith (w : World) (object : ObjectRef → Except Stuck (List UInt8)) :
    Value → Except Stuck (List UInt8)
  | .null => .ok (Text.toBytes "<nil>")
  | .undefined => .ok (Text.toBytes "undefined")
  | .bool b => .ok (Text.toBytes (Value.boolText b))
  | .string s => .ok (Text.toBytes s)
  | .bytes bs => .ok bs
  | .number x => .ok (Text.toBytes (Number.general x))
  | .single x => .ok (Text.toBytes (Number.generalSingle x))
  | .int n => .ok (Text.toBytes (toString n.toInt))
  | .uint n => .ok (Text.toBytes (toString n.toNat))
  | .array items => do
      let parts ← w.printedAll object items
      return Data.enclosed "[" "]" (Text.join (Text.toBytes " ") parts)
  | .object ref => object ref
  | .table entries => .ok (Data.table entries).printed
  | .element _ => .error .locked
  | .event ref => .ok (w.printedAddress ref)

def printedAll (w : World) (object : ObjectRef → Except Stuck (List UInt8)) :
    List Value → Except Stuck (List (List UInt8))
  | [] => .ok []
  | v :: vs => do
      let first ← w.printedWith object v
      let rest ← w.printedAll object vs
      return first :: rest

end

/-- An object with its members in the order of the names. At most `depth` objects are inside one
another, unless an object is inside itself. -/
def printedObject (w : World) : (depth : Nat) → ObjectRef → Except Stuck (List UInt8)
  | 0, _ => .error .overflow
  | depth + 1, ref => do
      let entries := ((w.store.heap.get? ref).getD .empty).entries
      let values ← w.printedAll (w.printedObject depth) (entries.map fun entry => entry.2)
      let parts := entries.zipWith (fun entry value => Text.toBytes (entry.1 ++ ":") ++ value) values
      return Data.enclosed "map[" "]" (Text.join (Text.toBytes " ") parts)

def printedInside (w : World) : Value → Except Stuck (List UInt8) :=
  w.printedWith (w.printedObject (w.store.heap.objects.size + 1))

/-- A value by itself. An event is then printed with what it has. -/
def printed (w : World) (v : Value) : Except Stuck (List UInt8) :=
  match v with
  | .event ref =>
      match w.event? ref with
      | none => .ok (Text.toBytes "<nil>")
      | some e => do
          let detail ← w.printedInside e.detail
          let path ← w.printedInside (.array (e.path.map .element))
          return Data.enclosed "&\x7b" "\x7d"
            (Text.join (Text.toBytes " ") [Text.toBytes e.type, detail, path])
  | v => w.printedInside v

end World

end PageBinding
