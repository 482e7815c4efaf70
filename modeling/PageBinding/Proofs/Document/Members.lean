import PageBinding.Proofs.Document.Attributes
import PageBinding.Proofs.Document.Numbering
import PageBinding.Proofs.Run.Printed
import PageBinding.Proofs.Text.Raw
import PageBinding.Run.Exec

/-!
The members of elements. What is written to a member is read from it, as it is printed if it goes
into the markup, and nothing else about the element changes. What is printed without end is never
written.

A member is written in one of three ways, an attribute, the nodes inside or the table of properties,
and what the other members are read from is none of these: `reflected?_congr` says what that is,
`setReflected_cases` what is written into the markup.
-/
namespace PageBinding

theorem Node.findAll?_append (index : Nat) (ns ms : List Node) :
    findAll? index (ns ++ ms) = (findAll? index ns).or (findAll? index ms) := by
  induction ns with
  | nil => rfl
  | cons n ns ih => rw [List.cons_append, findAll?, findAll?, ih, Option.or_assoc]

namespace Document

variable {d d' : Document} {e : ElementRef} {name : String} {text : RawText}

/-! ## Nodes that are taken out -/

theorem Sound.label_node? (h : d.Sound) {l : Label} :
    (d.node? e).map Node.label = some l ↔ l ∈ d.labels ∧ l.index = e.index := by
  constructor
  · intro found
    obtain ⟨n, isNode, rfl⟩ := Option.map_eq_some_iff.1 found
    exact Node.mem_labelsAll_of_findAll? _ isNode
  · rintro ⟨mem, same⟩
    have number : e.index ∈ d.numbers := by
      rw [← map_labels, ← same]
      exact List.mem_map_of_mem mem
    obtain ⟨n, found⟩ := Option.isSome_iff_exists.1 ((Node.findAll?_isSome _).2 number)
    obtain ⟨mem', same'⟩ := Node.mem_labelsAll_of_findAll? _ found
    have distinct : (d.labels.map Label.index).Nodup := by
      rw [map_labels]
      exact h.distinct
    rw [node?, found, Option.map_some,
      List.inj_on_of_nodup_map distinct mem' mem (same'.trans same.symm)]

/-- Nodes that are taken out of the document are what they were. -/
theorem Sound.label_setContent (h : d.Sound) (old : e.index ≠ d.fresh) {inside : ElementRef} :
    ((d.setContent inside text).node? e).map Node.label = (d.node? e).map Node.label := by
  ext l
  rw [h.setContent.label_node?, h.label_node?]
  rcases labels_setContent h inside text with same | more
  · rw [same.mem_iff]
  · rw [more.mem_iff, List.mem_append, List.mem_singleton]
    constructor
    · rintro ⟨mem | rfl, number⟩
      · exact ⟨mem, number⟩
      · exact absurd number.symm old
    · exact fun ⟨mem, number⟩ => ⟨.inl mem, number⟩

theorem Sound.allAttrs_setContent (h : d.Sound) (isNode : (d.node? e).isSome = true)
    {inside : ElementRef} : (d.setContent inside text).allAttrs e = d.allAttrs e := by
  have number : e.index ∈ d.numbers := (Node.findAll?_isSome _).1 isNode
  exact allAttrs_congr (h.label_setContent (Nat.ne_of_lt (h.below _ number)))

theorem node?_setContent (d : Document) (e : ElementRef) (text : RawText) :
    (d.setContent e text).node? e =
      (d.node? e).map fun n => .node n.label [.node (d.added text) []] := by
  have kept : Node.findAll? e.index (Node.modifyAll e.index
      (fun n => .node n.label [.node (d.added text) []]) (d.root :: d.detached)) =
        (d.node? e).map fun n => .node n.label [.node (d.added text) []] :=
    Node.findAll?_modifyAll_self (f := fun n => .node n.label [.node (d.added text) []])
      (fun _ => rfl) _
  have shape : (d.setContent e text).node? e = Node.findAll? e.index (Node.modifyAll e.index
      (fun n => .node n.label [.node (d.added text) []]) (d.root :: d.detached) ++
        ((d.node? e).map Node.children).getD []) := rfl
  rw [shape, Node.findAll?_append, kept]
  cases d.node? e <;> rfl

theorem content_setContent (isElement : (d.node? e).map Node.kind = some .element) :
    (d.setContent e text).content e = text := by
  obtain ⟨n, found, kind⟩ := Option.map_eq_some_iff.1 isElement
  have notText : n.label.kind ≠ .text := by
    rw [show n.label.kind = .element from kind]
    decide
  rw [content, node?_setContent, found]
  simp [Node.content, Node.contentAll, notText, added]

/-! ## What members are read from -/

/-- The attributes that properties of other names reflect. -/
def reflectedKeys : List String :=
  (reflectedTexts ++ reflectedFlags).map Prod.snd

theorem reflected?_congr (attrs : ∀ key ∈ reflectedKeys, d'.attr? e key = d.attr? e key)
    (ids : name = "id" → d'.attr? e "id" = d.attr? e "id")
    (classes : name = "className" → d'.attr? e "class" = d.attr? e "class")
    (contents : name = "textContent" → d'.content e = d.content e) :
    d'.reflected? e name = d.reflected? e name := by
  unfold reflected?
  cases asText : reflectedTexts.lookup name with
  | some key =>
    have mem : key ∈ reflectedKeys := by
      obtain ⟨before, after, shape, -⟩ := List.lookup_eq_some_iff.1 asText
      simp [reflectedKeys, shape]
    simp only [attrs key mem]
  | none =>
    cases asFlag : reflectedFlags.lookup name with
    | some key =>
      have mem : key ∈ reflectedKeys := by
        obtain ⟨before, after, shape, -⟩ := List.lookup_eq_some_iff.1 asFlag
        simp [reflectedKeys, shape]
      simp only [attrs key mem]
    | none =>
      by_cases isId : name = "id"
      · simp only [if_pos isId, ids isId]
      · by_cases isClass : name = "className"
        · simp only [if_neg isId, if_pos isClass, classes isClass]
        · by_cases isContent : name = "textContent"
          · simp only [if_neg isId, if_neg isClass, contents isContent]
          · simp only [if_neg isId, if_neg isClass, if_neg isContent]

/-! ## What is written -/

/-- The properties that are written into an attribute, with the attribute. -/
def attrProperties : List (String × String) :=
  [("id", "id"), ("className", "class")]

theorem setReflected_cases (d : Document) (e : ElementRef) (text : RawText)
    (mem : name ∈ markupProperties) :
    (∃ key, (name, key) ∈ attrProperties ∧ d.setReflected e name text = d.setAttr e key text) ∨
      name = "textContent" ∧ d.setReflected e name text = d.setContent e text := by
  simp only [markupProperties, List.mem_cons, List.not_mem_nil, or_false] at mem
  obtain rfl | rfl | rfl := mem
  · exact .inl ⟨"id", by decide, rfl⟩
  · exact .inl ⟨"class", by decide, rfl⟩
  · exact .inr ⟨rfl, rfl⟩

theorem reflectedKeys_apart : ∀ key ∈ reflectedKeys, ∀ p ∈ attrProperties,
    Text.lower key ≠ Text.lower p.2 := by
  decide

theorem attrProperties_apart : ∀ p ∈ attrProperties, ∀ q ∈ attrProperties, p.1 ≠ q.1 →
    Text.lower p.2 ≠ Text.lower q.2 := by
  decide

theorem properties_setReflected (d : Document) (e : ElementRef) (name : String) (text : RawText) :
    (d.setReflected e name text).properties = d.properties := by
  unfold setReflected
  split
  · rfl
  · split <;> rfl

/-- The table of properties has none of those that are in the markup. -/
theorem Reached.lookup_markup (h : d.Reached) (mem : name ∈ markupProperties) (index : Nat) :
    d.properties.lookup (index, name) = none := by
  induction h with
  | empty => rfl
  | ofMarkup text => rfl
  | setAttr before e name value ih => exact ih
  | setReflected before e written text ih =>
    rw [properties_setReflected]
    exact ih
  | remember before e written value other ih =>
    have ne : ((index, name) == (e.index, written)) = false := by
      rw [beq_eq_false_iff_ne]
      rintro ⟨⟩
      exact other mem
    rw [Document.remember, List.lookup_cons, ne]
    exact ih

theorem property?_of_markup (h : d.Reached) (mem : name ∈ markupProperties) :
    d.property? e name = d.reflected? e name := by
  rw [property?, h.lookup_markup mem, Option.none_or]

theorem reflected?_attr {key : String} (mem : (name, key) ∈ attrProperties) :
    d.reflected? e name = some (.ofRaw ((d.attr? e key).getD "")) := by
  simp only [attrProperties, List.mem_cons, List.not_mem_nil, or_false, Prod.mk.injEq] at mem
  obtain ⟨rfl, rfl⟩ | ⟨rfl, rfl⟩ := mem <;> rfl

theorem content_setAttr (d : Document) (e : ElementRef) (key : String) (value : RawText) :
    (d.setAttr e key value).content e = d.content e := by
  rw [content, node?_setAttr, content]
  cases d.node? e with
  | none => rfl
  | some n => cases n; rfl

/-! ## Reading what was written -/

/-- A property that is written into an attribute. -/
theorem property?_setAttr (isNode : (d.node? e).isSome = true) {key : String}
    (mem : (name, key) ∈ attrProperties) :
    (d.setAttr e key text).reflected? e name = some (.ofRaw text) ∧
      ∀ m, m ≠ name → (d.setAttr e key text).property? e m = d.property? e m := by
  have read := attr?_setAttr isNode key text
  have other {m key' : String} (ne : m ≠ name) (mem' : (m, key') ∈ attrProperties) :
      (d.setAttr e key text).attr? e key' = d.attr? e key' :=
    (read key').trans (if_neg (attrProperties_apart _ mem' _ mem ne))
  refine ⟨?_, fun m ne => congrArg (Option.or _) (reflected?_congr ?_ ?_ ?_ ?_)⟩
  · rw [reflected?_attr mem, read key, if_pos rfl]
    rfl
  · exact fun key' listed => (read key').trans (if_neg (reflectedKeys_apart _ listed _ mem))
  · exact fun isId => other ne (by simp [attrProperties, isId])
  · exact fun isClass => other ne (by simp [attrProperties, isClass])
  · exact fun _ => content_setAttr d e key text

/-- The nodes inside an element, replaced by a text. -/
theorem property?_setContent (h : d.Sound)
    (isElement : (d.node? e).map Node.kind = some .element) :
    (d.setContent e text).reflected? e "textContent" = some (.ofRaw text) ∧
      ∀ m, m ≠ "textContent" → (d.setContent e text).property? e m = d.property? e m := by
  have isNode : (d.node? e).isSome = true := by
    rw [← Option.isSome_map (f := Node.kind), isElement]
    rfl
  have same (key : String) : (d.setContent e text).attr? e key = d.attr? e key := by
    rw [attr?_eq, attr?_eq, h.allAttrs_setContent isNode]
  refine ⟨?_, fun m ne => congrArg (Option.or _) (reflected?_congr ?_ ?_ ?_ ?_)⟩
  · exact congrArg (fun s => some (Value.ofRaw s)) (content_setContent isElement)
  · exact fun key _ => same key
  · exact fun _ => same "id"
  · exact fun _ => same "class"
  · exact fun isContent => absurd isContent ne

/-- A property that is kept in the table. -/
theorem property?_remember (d : Document) (e : ElementRef) (name : String) (v : Value) :
    (d.remember e name v).property? e name = some v ∧
      ∀ m, m ≠ name → (d.remember e name v).property? e m = d.property? e m := by
  refine ⟨?_, fun m ne => ?_⟩
  · rw [property?, remember, List.lookup_cons, beq_self_eq_true]
    rfl
  · have other : ((e.index, m) == (e.index, name)) = false := by
      rw [beq_eq_false_iff_ne]
      rintro ⟨⟩
      exact ne rfl
    rw [property?, remember, List.lookup_cons, other]
    rfl

/-- A property that is written into the markup is read as the text, and every other property of the
element as before. -/
theorem property?_setReflected (reached : d.Reached)
    (isElement : (d.node? e).map Node.kind = some .element) (mem : name ∈ markupProperties)
    (text : RawText) :
    (d.setReflected e name text).property? e name = some (.ofRaw text) ∧
      ∀ m, m ≠ name → (d.setReflected e name text).property? e m = d.property? e m := by
  have isNode : (d.node? e).isSome = true := by
    rw [← Option.isSome_map (f := Node.kind), isElement]
    rfl
  rw [property?_of_markup (reached.setReflected e name text) mem]
  rcases d.setReflected_cases e text mem with ⟨key, isAttr, same⟩ | ⟨rfl, same⟩
  · rw [same]
    exact property?_setAttr isNode isAttr
  · rw [same]
    exact property?_setContent reached.sound isElement

/-- The only attribute that changes is the one that a property is written into. -/
theorem Sound.allAttrs_setReflected (h : d.Sound) (mem : name ∈ markupProperties) (text : RawText)
    {other : ElementRef} (isNode : (d.node? other).isSome = true) :
    (d.setReflected e name text).allAttrs other = d.allAttrs other ∨
      other.index = e.index ∧ ∃ key, (name, key) ∈ attrProperties ∧
        Label.without key ((d.setReflected e name text).allAttrs other) =
          Label.without key (d.allAttrs other) := by
  rcases d.setReflected_cases e text mem with ⟨key, isAttr, same⟩ | ⟨-, same⟩
  · rw [same]
    by_cases here : other.index = e.index
    · obtain ⟨i, tag⟩ := other
      cases here
      have lowered : ∀ p ∈ attrProperties, Text.lower p.2 = p.2 := by decide
      refine .inr ⟨rfl, key, isAttr, ?_⟩
      rw [show (d.setAttr e key _).allAttrs ⟨e.index, tag⟩ = _ from
        allAttrs_setAttr (e := e) isNode _ _, lowered _ isAttr, Label.without_replaceAttr]
      rfl
    · exact .inl (allAttrs_congr (label_setAttr here _ _))
  · rw [same]
    exact .inl (h.allAttrs_setContent isNode)

end Document

namespace World

open Document

variable {w : World} {e : ElementRef} {name : String} {v : Value}

/-- A property that is written into the markup is printed first. -/
theorem setProperty_markup (mem : name ∈ markupProperties) :
    w.setProperty e name v = (w.printed v).map fun text =>
      { w with document := w.document.setReflected e name (.ofBytes text) } :=
  if_pos mem

theorem setProperty_other (other : name ∉ markupProperties) :
    w.setProperty e name v = .ok { w with document := w.document.remember e name v } :=
  if_neg other

theorem setMember_other_name (other : name ≠ "tagName") :
    w.setMember (.element e) name v = (w.setProperty e name v).mapError .never :=
  if_neg other

/-- The name of an element cannot be written. A member that goes into the markup is never written, and
the write never comes back, if the value has no end when it is printed, so if it has an element or an
object inside itself at any depth. Any other write comes back: the member is read as it was written, or
as it was printed if it goes into the markup, and every other member of the element as before. Among
all nodes, only the attribute that the member is written into changes, and the data and the events
stay as they are. -/
theorem setMember_element (reached : w.document.Reached)
    (isElement : (w.document.node? e).map Node.kind = some .element) (name : String) (v : Value) :
    (name = "tagName" →
      w.setMember (.element e) name v = .error (.failed (.readOnly "tagName" "element"))) ∧
    (name ∈ markupProperties → ¬ w.Ends v →
      ∃ why, w.setMember (.element e) name v = .error (.never why)) ∧
    (name ≠ "tagName" → (name ∈ markupProperties → w.Ends v) →
      ∃ w', w.setMember (.element e) name v = .ok w' ∧
        (name ∉ markupProperties → w'.member? (.element e) name = some v) ∧
        (name ∈ markupProperties → ∃ text, w.printed v = .ok text ∧
          w'.member? (.element e) name = some (.ofBytes text)) ∧
        (∀ m, m ≠ name → w'.member? (.element e) m = w.member? (.element e) m) ∧
        (∀ other : ElementRef, (w.document.node? other).isSome = true →
          w'.document.allAttrs other = w.document.allAttrs other ∨
            other.index = e.index ∧ ∃ key, (name, key) ∈ attrProperties ∧
              Label.without key (w'.document.allAttrs other) =
                Label.without key (w.document.allAttrs other)) ∧
        w'.store = w.store ∧ w'.events = w.events) := by
  refine ⟨fun isName => ?_, fun mem endless => ?_, fun notName ends => ?_⟩
  · rw [setMember, if_pos isName, isName]
  · have notName : name ≠ "tagName" := by
      rintro rfl
      revert mem
      decide
    rw [setMember_other_name notName, setProperty_markup mem]
    cases printed : w.printed v with
    | ok text => exact absurd (printed_ok.1 ⟨text, printed⟩) endless
    | error why => exact ⟨why, rfl⟩
  · rw [setMember_other_name notName]
    by_cases mem : name ∈ markupProperties
    · obtain ⟨text, printed⟩ := printed_ok.2 (ends mem)
      obtain ⟨read, others⟩ := property?_setReflected reached isElement mem (.ofBytes text)
      rw [setProperty_markup mem, printed]
      exact ⟨_, rfl, fun other => absurd mem other, fun _ => ⟨text, rfl, read⟩, others,
        fun other isNode => reached.sound.allAttrs_setReflected mem _ isNode, rfl, rfl⟩
    · obtain ⟨read, others⟩ := property?_remember w.document e name v
      rw [setProperty_other mem]
      exact ⟨_, rfl, fun _ => read, fun isMarkup => absurd isMarkup mem, others,
        fun other isNode => .inl rfl, rfl, rfl⟩

/-- A paragraph whose bold text is replaced by a list with a byte in it that is no character. -/
theorem setMember_element_rewritten :
    let p : ElementRef := ⟨4, "p"⟩
    let b : ElementRef := ⟨5, "b"⟩
    let w : World := { World.empty with document := .ofMarkup "<p id=a><b lang=c>d</b></p>" }
    ∃ w', w.setMember (.element p) "textContent" (.array [.null, .bytes [0xff]]) = .ok w' ∧
      w'.member? (.element p) "textContent" =
        some (.ofBytes [0x5b, 0x3c, 0x6e, 0x69, 0x6c, 0x3e, 0x20, 0xff, 0x5d]) ∧
      w'.member? (.element p) "id" = w.member? (.element p) "id" ∧
      w'.document.allAttrs b = w.document.allAttrs b := by
  intro p b w
  obtain ⟨isElement, isNode⟩ : (w.document.node? p).map Node.kind = some .element ∧
      (w.document.node? b).isSome = true := by
    decide +kernel
  have printed : w.printed (.array [.null, .bytes [0xff]]) =
      .ok [0x5b, 0x3c, 0x6e, 0x69, 0x6c, 0x3e, 0x20, 0xff, 0x5d] := rfl
  obtain ⟨-, -, laws⟩ := setMember_element (w := w) (.ofMarkup _) isElement "textContent"
    (.array [.null, .bytes [0xff]])
  obtain ⟨w', written, -, read, others, attrs, -⟩ :=
    laws (by decide) fun _ => printed_ok.1 ⟨_, printed⟩
  obtain ⟨text, same, read⟩ := read (by decide)
  cases printed.symm.trans same
  refine ⟨w', written, read, others "id" (by decide), ?_⟩
  rcases attrs b isNode with same | ⟨isTarget, -⟩
  · exact same
  · cases isTarget

/-- Neither a list that has an element nor an object that is inside itself is ever written into the
markup. -/
theorem held_element_never_written :
    let p : ElementRef := ⟨4, "p"⟩
    let heap : Heap := (Heap.empty.alloc (Fields.empty.put "me" (.object ⟨0⟩))).2
    let w : World := { World.empty with document := .ofMarkup "<p class=c></p>", store.heap := heap }
    w.setMember (.element p) "id" (.array [.element p]) = .error (.never .locked) ∧
      w.setMember (.element p) "id" (.object ⟨0⟩) = .error (.never .overflow) :=
  ⟨rfl, rfl⟩

end World

end PageBinding
