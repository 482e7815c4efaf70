import PageBinding.Text.Case
import PageBinding.Text.Raw

/-!
The nodes of a document.
-/
namespace PageBinding

structure Attr where
  space : String
  key : String
  value : RawText
  deriving DecidableEq, Repr, Inhabited

inductive NodeKind
  | document
  | element
  | text
  | comment
  | doctype
  deriving DecidableEq, Repr, Inhabited

/-- A node without its children. Elements and document types have a name, texts and comments a text. -/
structure Label where
  index : Nat
  kind : NodeKind
  name : String
  space : String
  attrs : List Attr
  text : RawText
  deriving DecidableEq, Repr, Inhabited

inductive Node
  | node (label : Label) (children : List Node)
  deriving Inhabited

namespace Label

/-! ## Attributes -/

def findAttr (key : String) : List Attr → Option RawText
  | [] => none
  | a :: rest => if a.space = "" && a.key = key then some a.value else findAttr key rest

def replaceAttr (key : String) (value : RawText) : List Attr → List Attr
  | [] => [⟨"", key, value⟩]
  | a :: rest =>
      if a.space = "" && a.key = key then { a with value } :: rest
      else a :: replaceAttr key value rest

def attr? (label : Label) (name : String) : Option RawText :=
  findAttr (Text.lower name) label.attrs

def setAttr (label : Label) (name : String) (value : RawText) : Label :=
  { label with attrs := replaceAttr (Text.lower name) value label.attrs }

def plainAttrs (label : Label) : List (String × RawText) :=
  (label.attrs.filter (·.space = "")).map fun a => (a.key, a.value)

/-- The name, or the text of what has no name. -/
def called (label : Label) : String :=
  match label.kind with
  | .text => label.text.toText
  | .comment => label.text.toText
  | _ => label.name

def shown (label : Label) : String :=
  match label.attr? "id" with
  | some id =>
      if id = "" then "<" ++ label.called ++ ">"
      else "<" ++ label.called ++ "#" ++ id.toText ++ ">"
  | none => "<" ++ label.called ++ ">"

end Label

namespace Node

def label : Node → Label
  | node label _ => label

def children : Node → List Node
  | node _ children => children

def kind (n : Node) : NodeKind :=
  n.label.kind

mutual

def content : Node → RawText
  | node label children =>
      (if label.kind = .text then label.text else "") ++ contentAll children

def contentAll : List Node → RawText
  | [] => ""
  | n :: ns => content n ++ contentAll ns

end

mutual

def elements : Node → List Label
  | node label children =>
      (if label.kind = .element then [label] else []) ++ elementsAll children

def elementsAll : List Node → List Label
  | [] => []
  | n :: ns => elements n ++ elementsAll ns

end

mutual

/-- A node with the nodes in it numbered in document order, and the number after the last. -/
def number (next : Nat) : Node → Node × Nat
  | node label children =>
      let (children, after) := numberAll (next + 1) children
      (node { label with index := next } children, after)

def numberAll (next : Nat) : List Node → List Node × Nat
  | [] => ([], next)
  | n :: ns =>
      let (n, next) := number next n
      let (ns, after) := numberAll next ns
      (n :: ns, after)

end

mutual

def modify (index : Nat) (f : Node → Node) : Node → Node
  | node label children =>
      if label.index = index then f (node label children)
      else node label (modifyAll index f children)

def modifyAll (index : Nat) (f : Node → Node) : List Node → List Node
  | [] => []
  | n :: ns => modify index f n :: modifyAll index f ns

end

mutual

def find? (index : Nat) : Node → Option Node
  | node label children =>
      if label.index = index then some (node label children) else findAll? index children

def findAll? (index : Nat) : List Node → Option Node
  | [] => none
  | n :: ns => (find? index n).or (findAll? index ns)

end

end Node

end PageBinding
