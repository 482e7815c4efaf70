import PageBinding.Document.Node

/-!
Places in a document: a node together with what surrounds it, so that one can look from a node to
its siblings and to the nodes above.
-/
namespace PageBinding

structure Level where
  before : List Node
  node : Node
  after : List Node
  deriving Inhabited

structure Place where
  level : Level
  above : List Level
  deriving Inhabited

namespace Place

def node (p : Place) : Node := p.level.node

def label (p : Place) : Label := p.node.label

def children (p : Place) : List Node := p.node.children

def parent? (p : Place) : Option Place :=
  match p.above with
  | [] => none
  | level :: above => some ⟨level, above⟩

def ancestors (p : Place) : List Place :=
  go p.above
where
  go : List Level → List Place
    | [] => []
    | level :: above => ⟨level, above⟩ :: go above

def previous (p : Place) : List Place :=
  go p.level.before [p.level.node] p.level.after
where
  go : List Node → List Node → List Node → List Place
    | [], _, _ => []
    | n :: before, passed, after =>
        { p with level := ⟨before, n, passed ++ after⟩ } :: go before (n :: passed) after

end Place

mutual

def Node.places (above : List Level) (before : List Node) (after : List Node) : Node → List Place
  | .node label children =>
      let level : Level := ⟨before, .node label children, after⟩
      ⟨level, above⟩ :: Node.placesAll (level :: above) [] children

def Node.placesAll (above : List Level) (before : List Node) : List Node → List Place
  | [] => []
  | n :: ns => Node.places above before ns n ++ Node.placesAll above (n :: before) ns

end

mutual

/-- The first place in a node that passes a test: its own, or the first among those in it. -/
def Node.first? (test : Place → Bool) (above : List Level) (before : List Node) (after : List Node) :
    Node → Option Place
  | .node label children =>
      let level : Level := ⟨before, .node label children, after⟩
      if test ⟨level, above⟩ then some ⟨level, above⟩
      else Node.firstAmong? test (level :: above) [] children

def Node.firstAmong? (test : Place → Bool) (above : List Level) (before : List Node) :
    List Node → Option Place
  | [] => none
  | n :: ns =>
      match Node.first? test above before ns n with
      | some p => some p
      | none => Node.firstAmong? test above (n :: before) ns

end

def Place.below (p : Place) : List Place :=
  Node.placesAll (p.level :: p.above) [] p.children

def Place.firstBelow? (test : Place → Bool) (p : Place) : Option Place :=
  Node.firstAmong? test (p.level :: p.above) [] p.children

def Place.inside (p : Place) : List Place :=
  p.below.filter fun q => q.above.length = p.above.length + 1

end PageBinding
