import PageBinding.Store.Heap
import PageBinding.Text.Quoted

/-!
The data store: numbered contexts, each an object whose members are read and written by dotted
paths.
-/
namespace PageBinding

structure Store where
  heap : Heap
  contexts : List (Int × ObjectRef)
  deriving Inhabited

inductive StoreError
  | canceled
  | emptyPath
  | notAnObject (path part : String)
  deriving DecidableEq, Repr

def StoreError.message : StoreError → String
  | canceled => "context canceled"
  | emptyPath => "empty property path"
  | notAnObject path part =>
      "cannot set " ++ Text.shown path ++ ": " ++ Text.shown part ++ " is not an object"

namespace Store

def empty : Store := ⟨.empty, []⟩

def keys (path : String) : List String :=
  (Text.splitOn '.' path.toList).map String.ofList

def context? (store : Store) (context : Int) : Option ObjectRef :=
  store.contexts.lookup context

def setContext (store : Store) (context : Int) (ref : ObjectRef) : Store :=
  { store with contexts := (context, ref) :: store.contexts.filter (·.1 ≠ context) }

/-! ## Reading -/

def follow (heap : Heap) : Value → List String → Value
  | v, [] => v
  | .object ref, key :: keys => follow heap ((heap.member? ref key).getD .null) keys
  | _, _ :: _ => .null

def read (store : Store) (context : Int) (path : String) : Value :=
  if path = "" then .null
  else match store.context? context with
    | some ref => follow store.heap (.object ref) (keys path)
    | none => .null

def fetch (canceled : Bool) (store : Store) (context : Int) (path : String) :
    Except StoreError Value :=
  if canceled then .error .canceled else .ok (store.read context path)

/-! ## Writing -/

def openContext (context : Int) : EStateM StoreError Store ObjectRef := do
  let store ← get
  match store.context? context with
  | some ref => return ref
  | none =>
      let (ref, heap) := store.heap.alloc .empty
      set (({ store with heap }).setContext context ref)
      return ref

/-- The object under a key of another object, made if there is nothing. `done` are the keys
already followed, last first. -/
def openMember (path : String) (done : List String) (ref : ObjectRef) (key : String) :
    EStateM StoreError Store ObjectRef := do
  let store ← get
  match (store.heap.member? ref key).getD .null with
  | .object next => return next
  | .null =>
      let (next, heap) := store.heap.alloc .empty
      set { store with heap := heap.setMember ref key (.object next) }
      return next
  | _ => throw (.notAnObject path (Text.joinStrings "." (key :: done).reverse))

def write (path : String) (value : Value) (done : List String) (ref : ObjectRef) :
    List String → EStateM StoreError Store Unit
  | [] => return
  | [key] => modify fun store => { store with heap := store.heap.setMember ref key value }
  | key :: keys => do
      let next ← openMember path done ref key
      write path value (key :: done) next keys

def assign (canceled : Bool) (context : Int) (path : String) (value : Value) :
    EStateM StoreError Store Unit := do
  if canceled then throw .canceled
  else if path = "" then throw .emptyPath
  else
    let ref ← openContext context
    write path value [] ref (keys path)

def replace (store : Store) (context : Int) (fields : List (String × Data)) : Store :=
  let (fields, heap) := store.heap.ofEntries fields
  let (ref, heap) := heap.alloc fields
  ({ store with heap }).setContext context ref

end Store

end PageBinding
