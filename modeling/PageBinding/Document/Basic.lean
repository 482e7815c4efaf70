import PageBinding.Markup.Render
import PageBinding.Markup.Rules
import PageBinding.Selector.Match
import PageBinding.Selector.Parser
import PageBinding.Value.Basic

/-!
Documents: the nodes of a page, the parts cut out of it, and the properties that its nodes got while
it was used.
-/
namespace PageBinding

structure Document where
  root : Node
  detached : List Node
  fresh : Nat
  properties : List ((Nat × String) × Value)
  deriving Inhabited

structure QueryError where
  selector : RawText
  cause : SelectorError
  deriving DecidableEq, Repr

def QueryError.message (e : QueryError) : String :=
  "invalid selector " ++ e.selector.shown ++ ": " ++ e.cause.message

def Place.ref (p : Place) : ElementRef :=
  ⟨p.label.index, p.label.called⟩

namespace Document

def ofNodes (nodes : List Node) (fresh : Nat) : Document :=
  ⟨.node ⟨0, .document, "", "", [], ""⟩ nodes, [], fresh, []⟩

def empty : Document := ofNodes [] 1

def ofMarkup (text : String) : Document :=
  let (nodes, fresh) := Node.numberAll 1 (Markup.parse text)
  ofNodes nodes fresh

def render (d : Document) : Except String RawText :=
  Markup.render d.root.children

/-! ## Elements -/

def elements (d : Document) : List Label :=
  d.root.elements

/-- The elements up to the first that stops a visit, that one included, and whether one did. -/
def visit (stops : Label → Bool) : List Label → List Label × Bool
  | [] => ([], false)
  | label :: labels =>
      if stops label then ([label], true)
      else
        let later := visit stops labels
        (label :: later.1, later.2)

def node? (d : Document) (e : ElementRef) : Option Node :=
  Node.findAll? e.index (d.root :: d.detached)

def position? (d : Document) (e : ElementRef) : Option Nat :=
  d.elements.findIdx? fun label => label.index = e.index

def shown (d : Document) (e : ElementRef) : String :=
  match d.node? e with
  | some n => n.label.shown
  | none => "<" ++ e.name ++ ">"

def modify (d : Document) (e : ElementRef) (f : Node → Node) : Document :=
  { d with
    root := Node.modify e.index f d.root
    detached := Node.modifyAll e.index f d.detached }

/-! ## Attributes -/

def attr? (d : Document) (e : ElementRef) (name : String) : Option RawText :=
  (d.node? e).bind fun n => n.label.attr? name

def attrs (d : Document) (e : ElementRef) : List (String × RawText) :=
  ((d.node? e).map fun n => n.label.plainAttrs).getD []

def setAttr (d : Document) (e : ElementRef) (name : String) (value : RawText) : Document :=
  d.modify e fun n => .node (n.label.setAttr name value) n.children

/-! ## Text -/

def content (d : Document) (e : ElementRef) : RawText :=
  ((d.node? e).map Node.content).getD ""

/-- The document with the nodes in a node replaced by a text. The nodes that were in it are no
longer in the document. -/
def setContent (d : Document) (e : ElementRef) (text : RawText) : Document :=
  let cut := ((d.node? e).map Node.children).getD []
  let added : Node := .node ⟨d.fresh, .text, "", "", [], text⟩ []
  let d := d.modify e fun n => .node n.label [added]
  { d with detached := d.detached ++ cut, fresh := d.fresh + 1 }

/-! ## Lookup -/

def place (d : Document) : Place :=
  ⟨⟨[], d.root, []⟩, []⟩

def places (d : Document) : List Place :=
  (d.root :: d.detached).flatMap fun n => Node.places [] [] [] n

def placeOf? (d : Document) (e : ElementRef) : Option Place :=
  d.places.find? fun p => p.label.index = e.index

abbrev Known := List (RawText × List Selector)

def selectors (known : Known) (selector : RawText) : Except QueryError (List Selector × Known) :=
  match known.lookup selector with
  | some group => .ok (group, known)
  | none =>
      match Selector.parse selector with
      | .ok group => .ok (group, (selector, group) :: known)
      | .error cause => .error ⟨selector, cause⟩

structure Lookup where
  inside : Option ElementRef
  selector : RawText

def start? (d : Document) : Option ElementRef → Option Place
  | none => some d.place
  | some e => d.placeOf? e

def lookup (d : Document) (known : Known) (l : Lookup) :
    Except QueryError (Option ElementRef) × Known :=
  match selectors known l.selector with
  | .ok (group, known) =>
      let found := (d.start? l.inside).bind (Place.firstBelow? (Selector.acceptsAny group))
      (.ok (found.map Place.ref), known)
  | .error e => (.error e, known)

def query (d : Document) (selector : RawText) : Except QueryError (Option ElementRef) :=
  (d.lookup [] ⟨none, selector⟩).1

def queryFrom (d : Document) (e : ElementRef) (selector : RawText) :
    Except QueryError (Option ElementRef) :=
  (d.lookup [] ⟨some e, selector⟩).1

end Document

end PageBinding
