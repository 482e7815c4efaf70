import PageBinding.Number.Integer
import PageBinding.Number.Wording
import PageBinding.Settings.Hcl.Block
import PageBinding.Settings.Hcl.Json
import PageBinding.Text.Blank
import PageBinding.Text.Fold
import PageBinding.Value.Data

/-!
What a tree of settings in blocks says.

A key that comes again adds to what it has said before: the kind of its first value decides how the
later ones are understood.
-/
namespace PageBinding.Settings.Hcl

inductive Content
  | bool (b : Bool)
  | int (n : Int64)
  | float (x : Float)
  | text (s : String)
  | list (items : List Content)
  | fields (entries : List (String × Content))
  | blocks (all : List (List (String × Content)))
  deriving Inhabited

inductive ContentError
  | located (position : Position) (e : ContentError)
  | tree (e : TreeError)
  | unknownType (path kind : String)
  | unknownText (path kind : String)
  | unknownList (kind : String)
  | notFields (path kind : String)
  | noKey (path : String)
  | noContent (path kind : String)
  | number (reader text : String) (e : Number.ReadError)
  deriving DecidableEq, Repr

def ContentError.message : ContentError → String
  | located p e => "At " ++ p.message ++ ": " ++ e.message
  | tree e => e.message
  | unknownType path kind => path ++ ": unknown type " ++ kind
  | unknownText path kind => path ++ ": unknown type for string " ++ kind
  | unknownList kind => "unknown slice type: " ++ kind
  | notFields path kind => path ++ ": not an object type for map (" ++ kind ++ ")"
  | noKey path => path ++ ": map must have string keys"
  | noContent path kind => path ++ ": cannot decode into interface: " ++ kind
  | number reader text e => e.wording reader text

def integer (text : String) : Except ContentError Content :=
  match Number.readInt text.toList with
  | .ok n => .ok (.int n)
  | .error e => .error (.number "ParseInt" text e)

def float (text : String) : Except ContentError Content :=
  match Number.read text.toList with
  | .ok x => .ok (.float x)
  | .error e => .error (.number "ParseFloat" text e)

def Literal.content : Literal → Except ContentError Content
  | bool b => .ok (.bool b)
  | integer t => Hcl.integer t
  | float t => Hcl.float t
  | text s | heredoc s => .ok (.text s)

def Literal.contentAfter? : Content → Literal → Option (Except ContentError Content)
  | .bool _, bool b => some (.ok (.bool b))
  | .int _, integer t => some (Hcl.integer t)
  | .int _, text s => some (Hcl.integer s)
  | .float _, float t | .float _, integer t => some (Hcl.float t)
  | .text _, integer t => some (.ok (.text t))
  | .text _, text s | .text _, heredoc s => some (.ok (.text s))
  | _, _ => none

def Content.refusal (path kind : String) : Content → ContentError
  | text _ => .unknownText path kind
  | list _ | blocks _ => .unknownList kind
  | fields _ => .notFields path kind
  | _ => .unknownType path kind

def withKey (key : String) (items : List Item) : List Item :=
  items.filterMap fun i =>
    match i.1 with
    | first :: rest => if Text.sameFolded first.name key then some (rest, i.2) else none
    | [] => none

def place (items : List Item) : Position :=
  match items with
  | (key :: _, _) :: _ => key.position
  | _ => {}

def put (key : String) (c : Content) : List (String × Content) → List (String × Content)
  | [] => [(key, c)]
  | e :: rest => if e.1 = key then (key, c) :: rest else e :: put key c rest

def collect {α : Type} (read : Nat → α → Except ContentError Content) (values : List α) :
    Except ContentError (List Content) :=
  values.zipIdx.mapM fun v => read v.2 v.1

def elementPath (path : String) (n : Nat) : String :=
  path ++ "[" ++ toString n ++ "]"

mutual

/-- What items say, after what has been said before. The items with a key of several parts are taken
together at the first of them. -/
def fieldsOf (path : String) : (fuel : Nat) → List Item → List (String × Content) →
    Except ContentError (List (String × Content))
  | 0, _, entries => .ok entries
  | fuel + 1, items, entries => do
      let step (state : List (String × Content) × List String) (item : Item) :
          Except ContentError (List (String × Content) × List String) :=
        match item.1 with
        | [] => .error (.located (place items) (.noKey path))
        | key :: further =>
            let name := key.name
            let inner := path ++ "." ++ name
            let old := state.1.lookup name
            if state.2.contains name then .ok state
            else if further.isEmpty then do
              return (put name (← contentOf inner false fuel item.2 old) state.1, state.2)
            else do
              let all := withKey name items
              return (put name (← blocksOf inner fuel all old) state.1, name :: state.2)
      return (← items.foldlM step (entries, [])).1

/-- What a value says, after what has been said before. An object in a list is one object, an object
elsewhere one of several. -/
def contentOf (path : String) (inList : Bool) : (fuel : Nat) → Node → Option Content →
    Except ContentError Content
  | 0, _, _ => .ok (.text "")
  | fuel + 1, node, old => do
      let refuse (c : Content) : Except ContentError Content :=
        .error (.located node.position (c.refusal path node.kindName))
      let elements (nodes : List Node) :=
        collect (fun n node => contentOf (elementPath path n) true fuel node none) nodes
      let objects (nodes : List Node) (before : List (List (String × Content))) := do
        let objectOf (n : Nat) (node : Node) : Except ContentError (List (String × Content)) :=
          let inner := elementPath path n
          match node with
          | .object _ items => fieldsOf inner fuel items []
          | node => .error (.located node.position (.notFields inner node.kindName))
        return Content.blocks (before ++ (← nodes.zipIdx.mapM fun v => objectOf v.2 v.1))
      match node, old with
      | .literal _ l, none => l.content
      | .literal _ l, some c => (l.contentAfter? c).getD (refuse c)
      | .list _ nodes, none => return .list (← elements nodes)
      | .list _ nodes, some (.list before) => return .list (before ++ (← elements nodes))
      | .list _ nodes, some (.blocks before) => objects nodes before
      | .list .., some c => refuse c
      | .object _ items, none =>
          if inList then return .fields (← fieldsOf path fuel items [])
          else objects [node] []
      | .object .., some (.list before) => return .list (before ++ (← elements [node]))
      | .object .., some (.blocks before) => objects [node] before
      | .object .., some c => refuse c

def blocksOf (path : String) : (fuel : Nat) → List Item → Option Content →
    Except ContentError Content
  | 0, _, _ => .ok (.blocks [])
  | fuel + 1, items, old => do
      let objects (before : List (List (String × Content))) := do
        let objectOf (n : Nat) (item : Item) :=
          fieldsOf (elementPath path n) fuel [item] []
        return Content.blocks (before ++ (← items.zipIdx.mapM fun v => objectOf v.2 v.1))
      match old with
      | none => objects []
      | some (.blocks before) => objects before
      | some (.list _) => .error (.noContent (elementPath path 0) "*ast.ObjectItem")
      | some c => .error (.located (place items) (c.refusal path "*ast.ObjectList"))

end

mutual

def Content.data : Content → Data
  | bool b => .bool b
  | int n => .int n
  | float x => .number x
  | text s => .string s
  | list items => .list (dataList items)
  | fields entries => .record (dataEntries entries)
  | blocks all => .list (dataBlocks all)

def Content.dataList : List Content → List Data
  | [] => []
  | c :: rest => c.data :: dataList rest

def Content.dataEntries : List (String × Content) → List (String × Data)
  | [] => []
  | (key, c) :: rest => (key, c.data) :: dataEntries rest

def Content.dataBlocks : List (List (String × Content)) → List Data
  | [] => []
  | entries :: rest => .record (dataEntries entries) :: dataBlocks rest

end

def isJson (text : List Char) : Bool :=
  (text.dropWhile Text.isBlank).head? = some '\x7b'

def load (text : String) : Except ContentError (List (String × Data)) := do
  let chars := text.toList
  let items ← (if isJson chars then Json.parse chars else Block.parse chars).mapError .tree
  return Content.dataEntries (← fieldsOf "root" (5 * chars.length + 10) items [])

end PageBinding.Settings.Hcl
