import PageBinding.Document.Basic
import Mathlib.Data.List.Nodup

/-!
Document order. The walk over the elements and the search for a node are both compared with one list,
that of the places in document order: the walk gives the elements among them, and the search the first
that passes the test.
-/
namespace PageBinding

/-! ## Elements -/

mutual

/-- The elements in a node are those among its places, which are in document order. -/
theorem Node.elements_eq_places (above : List Level) (before after : List Node) :
    (n : Node) → n.elements =
      ((n.places above before after).map Place.label).filter fun label => label.kind = .element
  | .node label children => by
    let level : Level := ⟨before, .node label children, after⟩
    have below := Node.elementsAll_eq_places (level :: above) [] children
    rw [Node.elements, Node.places, List.map_cons, List.filter_cons, below]
    by_cases isElement : label.kind = .element
    · simp [isElement, Place.label, Place.node, Node.label, level]
    · simp [isElement, Place.label, Place.node, Node.label, level]

theorem Node.elementsAll_eq_places (above : List Level) (before : List Node) :
    (ns : List Node) → Node.elementsAll ns =
      ((Node.placesAll above before ns).map Place.label).filter fun label => label.kind = .element
  | [] => rfl
  | n :: ns => by
    rw [Node.elementsAll, Node.placesAll, List.map_append, List.filter_append,
      Node.elements_eq_places above before ns n, Node.elementsAll_eq_places above (n :: before) ns]

end

theorem Document.elements_eq_places (d : Document) :
    d.elements = ((d.place :: d.place.below).map Place.label).filter fun label =>
      label.kind = .element := by
  obtain ⟨root, detached, fresh, properties⟩ := d
  cases root with
  | node label children => exact Node.elements_eq_places [] [] [] (.node label children)

/-! ## Search -/

mutual

theorem Node.first?_eq_find? (test : Place → Bool) (above : List Level) (before after : List Node) :
    (n : Node) → n.first? test above before after = (n.places above before after).find? test
  | .node label children => by
    let level : Level := ⟨before, .node label children, after⟩
    have below := Node.firstAmong?_eq_find? test (level :: above) [] children
    rw [Node.first?, Node.places, below, List.find?_cons]
    cases test ⟨level, above⟩ <;> rfl

theorem Node.firstAmong?_eq_find? (test : Place → Bool) (above : List Level) (before : List Node) :
    (ns : List Node) →
      Node.firstAmong? test above before ns = (Node.placesAll above before ns).find? test
  | [] => rfl
  | n :: ns => by
    rw [Node.firstAmong?, Node.placesAll, List.find?_append,
      Node.first?_eq_find? test above before ns n,
      Node.firstAmong?_eq_find? test above (n :: before) ns]
    cases (n.places above before ns).find? test <;> rfl

end

theorem Place.firstBelow?_eq_find? (test : Place → Bool) (p : Place) :
    p.firstBelow? test = p.below.find? test :=
  Node.firstAmong?_eq_find? test _ _ _

/-! ## Parts of the order -/

mutual

/-- A place and those below it stand together in the order. -/
theorem Node.sublist_places {p : Place} (above : List Level) (before after : List Node) :
    (n : Node) → p ∈ n.places above before after →
      (p :: p.below).Sublist (n.places above before after)
  | .node label children, mem => by
    rw [Node.places] at mem ⊢
    rcases List.mem_cons.1 mem with rfl | inside
    · exact List.Sublist.refl _
    · exact (Node.sublist_placesAll _ _ children inside).cons _

theorem Node.sublist_placesAll {p : Place} (above : List Level) (before : List Node) :
    (ns : List Node) → p ∈ Node.placesAll above before ns →
      (p :: p.below).Sublist (Node.placesAll above before ns)
  | [], mem => by cases mem
  | n :: ns, mem => by
    rw [Node.placesAll] at mem ⊢
    rcases List.mem_append.1 mem with here | later
    · exact (Node.sublist_places above before ns n here).trans (List.sublist_append_left _ _)
    · exact (Node.sublist_placesAll above (n :: before) ns later).trans
        (List.sublist_append_right _ _)

end

end PageBinding
