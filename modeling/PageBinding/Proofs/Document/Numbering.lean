import PageBinding.Document.Property
import PageBinding.Proofs.Document.Order

/-!
The numbers of nodes. No two nodes of a document have the same number, counting those that were taken
out of it: the nodes of a page are numbered in order, a text that is written gets a number that was
never used, and nothing else changes a number.
-/
namespace PageBinding

namespace Node

mutual

/-- The numbers in a node, in document order. -/
def numbers : Node → List Nat
  | node label children => label.index :: numbersAll children

/-- The numbers in some nodes. -/
def numbersAll : List Node → List Nat
  | [] => []
  | n :: ns => numbers n ++ numbersAll ns

end

mutual

/-- What the nodes in a node are, in document order. -/
def labels : Node → List Label
  | node label children => label :: labelsAll children

/-- What the nodes in some nodes are. -/
def labelsAll : List Node → List Label
  | [] => []
  | n :: ns => labels n ++ labelsAll ns

end

mutual

theorem map_labels : (n : Node) → n.labels.map Label.index = n.numbers
  | node label children => by rw [labels, numbers, List.map_cons, map_labelsAll]

theorem map_labelsAll : (ns : List Node) → (labelsAll ns).map Label.index = numbersAll ns
  | [] => rfl
  | n :: ns => by rw [labelsAll, numbersAll, List.map_append, map_labels, map_labelsAll]

end

theorem labelsAll_append (ns ms : List Node) :
    labelsAll (ns ++ ms) = labelsAll ns ++ labelsAll ms := by
  induction ns with
  | nil => rfl
  | cons n ns ih => simp [labelsAll, ih]

@[simp]
theorem numbersAll_append (ns ms : List Node) :
    numbersAll (ns ++ ms) = numbersAll ns ++ numbersAll ms := by
  simp [← map_labelsAll, labelsAll_append]

mutual

theorem map_places (above : List Level) (before after : List Node) :
    (n : Node) → (n.places above before after).map (fun p => p.label.index) = n.numbers
  | node label children => by
    rw [places, numbers, List.map_cons, map_placesAll]
    rfl

theorem map_placesAll (above : List Level) (before : List Node) :
    (ns : List Node) → (placesAll above before ns).map (fun p => p.label.index) = numbersAll ns
  | [] => rfl
  | n :: ns => by
    rw [placesAll, numbersAll, List.map_append, map_places, map_placesAll]

end

/-! ## Numbering -/

mutual

theorem numbers_number (next : Nat) : (n : Node) → ∃ count,
    (n.number next).1.numbers = List.range' next count ∧ (n.number next).2 = next + count
  | node label children => by
    obtain ⟨count, inside, after⟩ := numbersAll_numberAll (next + 1) children
    refine ⟨count + 1, ?_, ?_⟩
    · rw [List.range'_succ, ← inside]
      rfl
    · rw [Nat.add_comm count, ← Nat.add_assoc, ← after]
      rfl

theorem numbersAll_numberAll (next : Nat) : (ns : List Node) → ∃ count,
    numbersAll (numberAll next ns).1 = List.range' next count ∧
      (numberAll next ns).2 = next + count
  | [] => ⟨0, rfl, rfl⟩
  | n :: ns => by
    obtain ⟨first, here, middle⟩ := numbers_number next n
    obtain ⟨rest, later, after⟩ := numbersAll_numberAll (next + first) ns
    rw [← middle] at later after
    refine ⟨first + rest, ?_, ?_⟩
    · rw [← List.range'_append_1, ← here, ← middle, ← later]
      rfl
    · rw [← Nat.add_assoc, ← middle, ← after]
      rfl

end

/-! ## Changing one node -/

variable {index : Nat} {f : Node → Node}

mutual

theorem numbers_modify (keeps : ∀ n, (f n).numbers = n.numbers) :
    (n : Node) → (n.modify index f).numbers = n.numbers
  | node label children => by
    rw [modify]
    split
    · exact keeps _
    · rw [numbers, numbers, numbersAll_modifyAll keeps]

theorem numbersAll_modifyAll (keeps : ∀ n, (f n).numbers = n.numbers) :
    (ns : List Node) → numbersAll (modifyAll index f ns) = numbersAll ns
  | [] => rfl
  | n :: ns => by
    rw [modifyAll, numbersAll, numbersAll, numbers_modify keeps, numbersAll_modifyAll keeps]

end

mutual

theorem modify_absent : (n : Node) → index ∉ n.numbers → n.modify index f = n
  | node label children, absent => by
    simp only [numbers, List.mem_cons, not_or] at absent
    rw [modify, if_neg (Ne.symm absent.1), modifyAll_absent children absent.2]

theorem modifyAll_absent : (ns : List Node) → index ∉ numbersAll ns → modifyAll index f ns = ns
  | [], _ => rfl
  | n :: ns, absent => by
    simp only [numbersAll, List.mem_append, not_or] at absent
    rw [modifyAll, modify_absent n absent.1, modifyAll_absent ns absent.2]

end

mutual

theorem find?_isSome : (n : Node) → ((n.find? index).isSome = true ↔ index ∈ n.numbers)
  | node label children => by
    have below := findAll?_isSome children
    rw [find?, numbers, List.mem_cons]
    by_cases here : label.index = index
    · simp [here]
    · simp [here, Ne.symm here, below]

theorem findAll?_isSome : (ns : List Node) →
    ((findAll? index ns).isSome = true ↔ index ∈ numbersAll ns)
  | [] => by simp [findAll?, numbersAll]
  | n :: ns => by
    rw [findAll?, numbersAll, List.mem_append, Option.isSome_or, Bool.or_eq_true, find?_isSome n,
      findAll?_isSome ns]

end

mutual

theorem mem_labels_of_find? {found : Node} :
    (n : Node) → n.find? index = some found → found.label ∈ n.labels ∧ found.label.index = index
  | node label children, isFound => by
    rw [find?] at isFound
    split at isFound
    · rename_i here
      cases isFound
      exact ⟨List.mem_cons_self, here⟩
    · obtain ⟨mem, same⟩ := mem_labelsAll_of_findAll? children isFound
      exact ⟨List.mem_cons_of_mem _ mem, same⟩

theorem mem_labelsAll_of_findAll? {found : Node} :
    (ns : List Node) → findAll? index ns = some found →
      found.label ∈ labelsAll ns ∧ found.label.index = index
  | n :: ns, isFound => by
    rw [findAll?, Option.or_eq_some_iff] at isFound
    rw [labelsAll, List.mem_append]
    rcases isFound with here | ⟨-, later⟩
    · exact (mem_labels_of_find? n here).imp_left .inl
    · exact (mem_labelsAll_of_findAll? ns later).imp_left .inr

end

mutual

/-- Replacing the nodes in one node takes away those that were in it and adds those that are in it
then. -/
theorem labels_replaced {found : Node} (added : List Node) :
    (n : Node) → n.numbers.Nodup → n.find? index = some found →
      ((n.modify index fun m => node m.label added).labels ++ labelsAll found.children).Perm
        (n.labels ++ labelsAll added)
  | node label children, distinct, isFound => by
    rw [numbers, List.nodup_cons] at distinct
    rw [find?] at isFound
    rw [modify]
    by_cases here : label.index = index
    · rw [if_pos here] at isFound ⊢
      cases isFound
      simp only [labels, Node.label, Node.children, List.cons_append]
      exact List.perm_append_comm.cons _
    · rw [if_neg here] at isFound ⊢
      simp only [labels, List.cons_append]
      exact (labelsAll_replaced added children distinct.2 isFound).cons _

theorem labelsAll_replaced {found : Node} (added : List Node) :
    (ns : List Node) → (numbersAll ns).Nodup → findAll? index ns = some found →
      (labelsAll (modifyAll index (fun m => node m.label added) ns) ++
        labelsAll found.children).Perm (labelsAll ns ++ labelsAll added)
  | [], _, isFound => by cases isFound
  | n :: ns, distinct, isFound => by
    rw [numbersAll, List.nodup_append] at distinct
    rw [findAll?] at isFound
    rw [modifyAll, labelsAll, labelsAll]
    -- The number stands in the first node or in the others, and nowhere else.
    cases here : n.find? index with
    | some m =>
      rw [here, Option.some_or] at isFound
      cases isFound
      have inFirst : index ∈ n.numbers := (find?_isSome n).1 (by rw [here]; rfl)
      have notLater : index ∉ numbersAll ns := fun later => distinct.2.2 _ inFirst _ later rfl
      rw [modifyAll_absent ns notLater]
      refine List.perm_iff_count.2 fun i => ?_
      have counts := (labels_replaced added n distinct.1 here).count_eq i
      simp only [List.count_append] at counts ⊢
      omega
    | none =>
      rw [here, Option.none_or] at isFound
      have notFirst : index ∉ n.numbers := by
        rw [← find?_isSome n, here]
        simp
      rw [modify_absent n notFirst]
      refine List.perm_iff_count.2 fun i => ?_
      have counts := (labelsAll_replaced added ns distinct.2.1 isFound).count_eq i
      simp only [List.count_append] at counts ⊢
      omega

end

theorem kind_modify (keeps : ∀ n, (f n).kind = n.kind) (n : Node) :
    (n.modify index f).kind = n.kind := by
  cases n with
  | node label children =>
    rw [modify]
    split
    · exact keeps _
    · rfl

end Node

/-! ## Documents -/

namespace Document

variable {d : Document} {e : ElementRef} {name : String} {value text : RawText}

/-- The numbers of all nodes, those that were taken out of the document last. -/
def numbers (d : Document) : List Nat :=
  Node.numbersAll (d.root :: d.detached)

/-- What all nodes are, those that were taken out of the document last. -/
def labels (d : Document) : List Label :=
  Node.labelsAll (d.root :: d.detached)

theorem map_labels (d : Document) : d.labels.map Label.index = d.numbers :=
  Node.map_labelsAll _

/-- What holds of every document while it is used. -/
structure Sound (d : Document) : Prop where
  root : d.root.kind = .document
  distinct : d.numbers.Nodup
  below : ∀ i ∈ d.numbers, i < d.fresh

theorem sound_ofMarkup (text : String) : (ofMarkup text).Sound := by
  obtain ⟨count, inside, after⟩ := Node.numbersAll_numberAll 1 (Markup.parse text)
  have all : (ofMarkup text).numbers = List.range' 0 (count + 1) := by
    rw [List.range'_succ, ← inside]
    simp [numbers, ofMarkup, ofNodes, Node.numbersAll, Node.numbers]
  refine ⟨rfl, ?_, fun i mem => ?_⟩
  · rw [all]
    exact List.nodup_range'
  · rw [all, List.mem_range'_1] at mem
    have last : (ofMarkup text).fresh = 1 + count := after
    omega

theorem Sound.setAttr (h : d.Sound) : (d.setAttr e name value).Sound := by
  have same : (d.setAttr e name value).numbers = d.numbers :=
    Node.numbersAll_modifyAll (fun n => by cases n; rfl) (d.root :: d.detached)
  refine ⟨?_, ?_, ?_⟩
  · exact (Node.kind_modify (fun n => by cases n; rfl) d.root).trans h.root
  · rw [same]
    exact h.distinct
  · rw [same]
    exact h.below

/-- The text that is written into a node. -/
def added (d : Document) (text : RawText) : Label :=
  ⟨d.fresh, .text, "", "", [], text⟩

/-- A text that is written has the next number, and nodes that are taken out stay what they are. -/
theorem labels_setContent (h : d.Sound) (e : ElementRef) (text : RawText) :
    (d.setContent e text).labels.Perm d.labels ∨
      (d.setContent e text).labels.Perm (d.labels ++ [d.added text]) := by
  have shape : (d.setContent e text).labels =
      Node.labelsAll
          (Node.modifyAll e.index (fun n => .node n.label [.node (d.added text) []])
            (d.root :: d.detached)) ++
        Node.labelsAll (((d.node? e).map Node.children).getD []) := by
    simp [setContent, labels, modify, Node.modifyAll, Node.labelsAll, Node.labelsAll_append, added]
  rw [shape]
  cases found : d.node? e with
  | none =>
    have absent : e.index ∉ d.numbers := by
      rw [numbers, ← Node.findAll?_isSome, ← node?, found]
      simp
    left
    rw [Node.modifyAll_absent _ absent]
    simp [labels, Node.labelsAll]
  | some n => exact .inr (Node.labelsAll_replaced [.node (d.added text) []] _ h.distinct found)

theorem numbers_setContent (h : d.Sound) :
    (d.setContent e text).numbers.Perm d.numbers ∨
      (d.setContent e text).numbers.Perm (d.numbers ++ [d.fresh]) := by
  simp only [← map_labels]
  exact (labels_setContent h e text).imp (·.map _) fun more => by
    simpa [added] using more.map Label.index

theorem Sound.setContent (h : d.Sound) : (d.setContent e text).Sound := by
  have unused : d.fresh ∉ d.numbers := fun mem => Nat.lt_irrefl _ (h.below _ mem)
  have next : (d.setContent e text).fresh = d.fresh + 1 := rfl
  refine ⟨?_, ?_, fun i mem => ?_⟩
  · exact (Node.kind_modify (fun n => by cases n; rfl) d.root).trans h.root
  · rcases numbers_setContent h with same | more
    · exact same.nodup_iff.2 h.distinct
    · refine more.nodup_iff.2 (List.nodup_append.2 ⟨h.distinct, List.nodup_singleton _, ?_⟩)
      rintro i mem j isFresh rfl
      exact unused (List.mem_singleton.1 isFresh ▸ mem)
  · rw [next]
    rcases numbers_setContent h with same | more
    · exact Nat.lt_succ_of_lt (h.below i (same.mem_iff.1 mem))
    · rcases List.mem_append.1 (more.mem_iff.1 mem) with old | isFresh
      · exact Nat.lt_succ_of_lt (h.below i old)
      · rw [List.mem_singleton.1 isFresh]
        exact Nat.lt_succ_self _

theorem Sound.setReflected (h : d.Sound) : (d.setReflected e name text).Sound := by
  unfold Document.setReflected
  split
  · exact h.setAttr
  · split
    · exact h.setAttr
    · exact h.setContent

/-- The documents that there can be: pages that were read, with attributes and properties written
since then. -/
inductive Reached : Document → Prop
  | empty : Reached .empty
  | ofMarkup (text : String) : Reached (.ofMarkup text)
  | setAttr {d : Document} (before : Reached d) (e : ElementRef) (name : String)
      (value : RawText) : Reached (d.setAttr e name value)
  | setReflected {d : Document} (before : Reached d) (e : ElementRef) (name : String)
      (text : RawText) : Reached (d.setReflected e name text)
  | remember {d : Document} (before : Reached d) (e : ElementRef) (name : String) (value : Value)
      (other : name ∉ markupProperties) : Reached (d.remember e name value)

theorem Reached.sound (h : d.Reached) : d.Sound := by
  induction h with
  | empty => exact ⟨rfl, by decide, by decide⟩
  | ofMarkup text => exact sound_ofMarkup text
  | setAttr before e name value ih => exact ih.setAttr
  | setReflected before e name text ih => exact ih.setReflected
  | remember before e name value other ih => exact ⟨ih.root, ih.distinct, ih.below⟩

/-! ## Places by number -/

theorem map_places (d : Document) : d.places.map (fun p => p.label.index) = d.numbers := by
  have parts (ns : List Node) :
      (ns.flatMap fun n => n.places [] [] []).map (fun p => p.label.index) = Node.numbersAll ns := by
    induction ns with
    | nil => rfl
    | cons n ns ih => simp [Node.numbersAll, Node.map_places, ih]
  exact parts _

/-- A place and those below it stand together among the places of a document. -/
theorem sublist_places {p : Place} (mem : p ∈ d.places) : (p :: p.below).Sublist d.places := by
  obtain ⟨n, isPart, inside⟩ := List.mem_flatMap.1 mem
  rw [places, List.flatMap_def]
  exact (Node.sublist_places [] [] [] n inside).trans
    (List.sublist_flatten_of_mem (List.mem_map_of_mem isPart))

/-- The reference to the node at a place leads back to the place. -/
theorem Sound.placeOf?_ref (h : d.Sound) {p : Place} (mem : p ∈ d.places) :
    d.placeOf? p.ref = some p := by
  have distinct : (d.places.map fun p => p.label.index).Nodup := by
    rw [map_places]
    exact h.distinct
  cases found : d.placeOf? p.ref with
  | none =>
    have absent := List.find?_eq_none.1 found p mem
    simp [Place.ref] at absent
  | some q =>
    have same : q.label.index = p.label.index :=
      of_decide_eq_true (List.find?_some (p := fun q : Place => q.label.index = p.ref.index) found)
    rw [List.inj_on_of_nodup_map distinct (List.mem_of_find?_eq_some found) mem same]

/-- The nodes below a place have other numbers than its own. -/
theorem Sound.ne_of_below (h : d.Sound) {p q : Place} (mem : p ∈ d.places) (below : q ∈ p.below) :
    q.label.index ≠ p.label.index := by
  have numbers := (sublist_places mem).map fun p => p.label.index
  rw [map_places] at numbers
  have distinct := h.distinct.sublist numbers
  rw [List.map_cons, List.nodup_cons] at distinct
  intro same
  exact distinct.1 (List.mem_map.2 ⟨q, below, same⟩)

end Document

end PageBinding
