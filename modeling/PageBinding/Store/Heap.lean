import PageBinding.Store.Fields
import PageBinding.Value.Convert

/-!
The objects of a running program. Values refer to objects by number, so that an object written
through one reference is seen through every other.
-/
namespace PageBinding

structure Heap where
  objects : Array (Fields Value)
  deriving Inhabited

namespace Heap

def empty : Heap := ⟨#[]⟩

def get? (heap : Heap) (ref : ObjectRef) : Option (Fields Value) :=
  heap.objects[ref.index]?

def member? (heap : Heap) (ref : ObjectRef) (name : String) : Option Value :=
  (heap.get? ref).bind (·.get? name)

def alloc (heap : Heap) (fields : Fields Value) : ObjectRef × Heap :=
  (⟨heap.objects.size⟩, ⟨heap.objects.push fields⟩)

def setMember (heap : Heap) (ref : ObjectRef) (name : String) (value : Value) : Heap :=
  ⟨heap.objects.modify ref.index fun fields => fields.put name value⟩

mutual

def ofData (heap : Heap) : Data → Value × Heap
  | .null => (.null, heap)
  | .bool b => (.bool b, heap)
  | .string s => (.string s, heap)
  | .bytes bs => (.bytes bs, heap)
  | .number x => (.number x, heap)
  | .int n => (.int n, heap)
  | .uint n => (.uint n, heap)
  | .list items =>
      let (values, heap) := ofItems heap items
      (.array values, heap)
  | .record entries =>
      let (fields, heap) := ofEntries heap entries
      let (ref, heap) := heap.alloc fields
      (.object ref, heap)
  | .table entries => (.table entries, heap)

def ofItems (heap : Heap) : List Data → List Value × Heap
  | [] => ([], heap)
  | item :: items =>
      let (value, heap) := ofData heap item
      let (values, heap) := ofItems heap items
      (value :: values, heap)

def ofEntries (heap : Heap) : List (String × Data) → Fields Value × Heap
  | [] => (.empty, heap)
  | (key, item) :: entries =>
      let (value, heap) := ofData heap item
      let (fields, heap) := ofEntries heap entries
      (fields.put key value, heap)

end

end Heap

end PageBinding
