import PageBinding.Proofs.Document.Attributes
import PageBinding.Proofs.Document.Numbering

/-!
The attributes of a page by the names that they are listed under. A name is looked for in lower
case, and the names that a page is read with are in lower case too, as far as they are ASCII, but for
those that have capitals in drawings and formulas. So an attribute is reached by its name if its name
is in lower case; under any other name one reaches another attribute, or none.
-/
namespace PageBinding

/-! ## Names in a page -/

theorem Markup.lower_of_lowered {name : String} (lowered : Lowered name)
    (ascii : ∀ c ∈ name.toList, c.toNat < 0x80) : Text.lower name = name := by
  obtain ⟨cs, rfl⟩ := lowered
  rw [String.toList_ofList, List.forall_mem_map] at ascii
  rw [Text.lower, String.toList_ofList, List.map_map]
  exact congrArg _ (List.map_congr_left fun c mem => Text.lowerChar_toLower (ascii c mem))

theorem Text.lowerChar_capital {c : Char} (capital : ('A' ≤ c && c ≤ 'Z') = true) :
    lowerChar c ≠ c := by
  have all : (List.range 26).all
      (fun n => lowerChar (Char.ofNat (65 + n)) ≠ Char.ofNat (65 + n)) = true := by
    decide +kernel
  rw [Bool.and_eq_true, decide_eq_true_eq, decide_eq_true_eq, Char.le_def, Char.le_def,
    UInt32.le_iff_toNat_le, UInt32.le_iff_toNat_le] at capital
  have least : 65 ≤ c.toNat := capital.1
  have most : c.toNat ≤ 90 := capital.2
  have here := List.all_eq_true.1 all (c.toNat - 65) (List.mem_range.2 (by omega))
  rw [Nat.add_sub_cancel' least, Char.ofNat_toNat] at here
  exact of_decide_eq_true here

theorem Markup.lower_ne_of_capitals {space name : String} (mem : name ∈ capitals space) :
    Text.lower name ≠ name := by
  have all : (mathAttrs ++ svgAttrs).all
      (fun n => n.toList.any fun c => 'A' ≤ c && c ≤ 'Z') = true := by
    decide +kernel
  have listed : name ∈ mathAttrs ++ svgAttrs := by
    unfold capitals at mem
    rw [List.mem_append]
    split at mem
    · exact .inl mem
    · split at mem
      · exact .inr mem
      · cases mem
  obtain ⟨c, inside, capital⟩ := List.any_eq_true.1 (List.all_eq_true.1 all name listed)
  intro same
  have kept : Text.lowerChar c = c := by
    have chars : name.toList.map Text.lowerChar = name.toList.map id := by
      rw [List.map_id]
      exact (String.toList_ofList (l := name.toList.map Text.lowerChar)).symm.trans
        (congrArg String.toList same)
    exact List.map_inj_left.1 chars c inside
  exact Text.lowerChar_capital capital kept

namespace Label

/-- The attributes of an element have the names that they can have in its name space. -/
def Proper (label : Label) : Prop :=
  label.kind = .element →
    ∀ a ∈ label.attrs, Markup.Lowered a.key ∨ a.key ∈ Markup.capitals label.space

end Label

namespace Node

variable {l : Label}

theorem mem_labelsAll {ns : List Node} : l ∈ labelsAll ns ↔ ∃ n ∈ ns, l ∈ n.labels := by
  induction ns with
  | nil => simp [labelsAll]
  | cons n ns ih => simp [labelsAll, ih]

mutual

theorem proper_number (next : Nat) :
    (n : Node) → (∀ l ∈ n.labels, l.Proper) → ∀ l ∈ (n.number next).1.labels, l.Proper
  | node label children, proper => by
      rw [labels, List.forall_mem_cons] at proper
      rw [number, labels, List.forall_mem_cons]
      exact ⟨proper.1, proper_numberAll (next + 1) children proper.2⟩

theorem proper_numberAll (next : Nat) :
    (ns : List Node) → (∀ l ∈ labelsAll ns, l.Proper) →
      ∀ l ∈ labelsAll (numberAll next ns).1, l.Proper
  | [], _ => by simp [numberAll, labelsAll]
  | n :: ns, proper => by
      rw [labelsAll, List.forall_mem_append] at proper
      rw [numberAll, labelsAll, List.forall_mem_append]
      exact ⟨proper_number next n proper.1, proper_numberAll _ ns proper.2⟩

end

end Node

namespace Markup

/-- The attributes of an item are those of an element in its name space. -/
theorem proper_finish (b : Builder) (fuel id : Nat) :
    ∀ l ∈ Node.labelsAll (finish b fuel id), l.Proper := by
  induction fuel generalizing id with
  | zero => simp [finish, Node.labelsAll]
  | succ fuel ih =>
    have below : ∀ l ∈ Node.labelsAll ((b.item id).children.flatMap (finish b fuel)), l.Proper := by
      intro l mem
      obtain ⟨n, inside, isLabel⟩ := Node.mem_labelsAll.1 mem
      obtain ⟨child, -, isNode⟩ := List.mem_flatMap.1 inside
      exact ih child l (Node.mem_labelsAll.2 ⟨n, isNode, isLabel⟩)
    have here (label : Label) (proper : label.Proper) :
        ∀ l ∈ Node.labelsAll [.node label ((b.item id).children.flatMap (finish b fuel))],
          l.Proper := by
      simp only [Node.labelsAll, Node.labels, List.append_nil, List.forall_mem_cons]
      exact ⟨proper, below⟩
    rw [finish]
    cases (b.item id).shape with
    | document => exact below
    | text data => exact here _ fun isElement => by cases isElement
    | comment data => exact here _ fun isElement => by cases isElement
    | doctype name attrs => exact here _ fun isElement => by cases isElement
    | element name space attrs =>
      refine here _ fun _ a mem => ?_
      obtain ⟨attr, -, rfl⟩ := List.mem_map.1 mem
      exact attr.proper

end Markup

namespace Document

variable {e : ElementRef} {n : Node} {name : String} {value : RawText}

theorem proper_ofMarkup (text : String) : ∀ l ∈ (ofMarkup text).labels, l.Proper := by
  have shape : (ofMarkup text).labels =
      ⟨0, .document, "", "", [], ""⟩ :: Node.labelsAll (Node.numberAll 1 (Markup.parse text)).1 := by
    simp [labels, ofMarkup, ofNodes, Node.labelsAll, Node.labels]
  rw [shape, List.forall_mem_cons]
  refine ⟨fun isElement => (by cases isElement), ?_⟩
  exact Node.proper_numberAll 1 _ (Markup.proper_finish _ _ _)

theorem listed_proper {text : String} (found : (ofMarkup text).node? e = some n)
    (isElement : n.kind = .element) (listed : (name, value) ∈ (ofMarkup text).attrs e) :
    Markup.Lowered name ∨ name ∈ Markup.capitals n.label.space := by
  have proper := proper_ofMarkup text _ (Node.mem_labelsAll_of_findAll? _ found).1 isElement
  rw [attrs, found] at listed
  obtain ⟨a, mem, same⟩ := List.mem_map.1 listed
  cases same
  exact proper a (List.mem_of_mem_filter mem)

/-- The name of an attribute that an element of a page lists is in lower case, if it is ASCII,
exactly unless its name space has capitals for it. By a name in lower case the attribute is reached:
reading gives the value of the first attribute of the name, and writing changes that one. Under any
other name both mean the first attribute of the name in lower case, and if there is none, reading
gives nothing and writing adds one. -/
theorem listed_reached {text : String} (found : (ofMarkup text).node? e = some n)
    (isElement : n.kind = .element) (listed : (name, value) ∈ (ofMarkup text).attrs e) :
    let d := ofMarkup text
    let key := Text.lower name
    ((∀ c ∈ name.toList, c.toNat < 0x80) →
      (key = name ↔ name ∉ Markup.capitals n.label.space)) ∧
    (key = name → ∃ before first after, d.attrs e = before ++ (name, first) :: after ∧
      (∀ p ∈ before, p.1 ≠ name) ∧ d.attr? e name = some first ∧
      ∀ v, (d.setAttr e name v).attrs e = before ++ (name, v) :: after) ∧
    (key ≠ name →
      (∃ before first after, d.attrs e = before ++ (key, first) :: after ∧
        (∀ p ∈ before, p.1 ≠ key) ∧ d.attr? e name = some first ∧
        ∀ v, (d.setAttr e name v).attrs e = before ++ (key, v) :: after) ∨
      (∀ p ∈ d.attrs e, p.1 ≠ key) ∧ d.attr? e name = none ∧
        ∀ v, (d.setAttr e name v).attrs e = d.attrs e ++ [(key, v)]) := by
  intro d key
  have isNode : (d.node? e).isSome = true := by rw [found]; rfl
  refine ⟨fun ascii => ⟨fun same mem => ?_, fun plain => ?_⟩, fun same => ?_, fun _ => ?_⟩
  · exact Markup.lower_ne_of_capitals mem same
  · rcases listed_proper found isElement listed with lowered | capital
    · exact Markup.lower_of_lowered lowered ascii
    · exact absurd capital plain
  · rcases setAttr_listed isNode name with ⟨others, -⟩ | reached
    · exact absurd same.symm (others _ listed)
    · rwa [show Text.lower name = name from same] at reached
  · exact (setAttr_listed isNode name).symm

/-- A name in capitals on the page is listed in lower case. -/
theorem listed_reached_title :
    let d := Document.ofMarkup "<p TITLE=a title=b>"
    d.attr? ⟨4, "p"⟩ "title" = some (.chars "a") ∧
      ∀ v, ((d.setAttr ⟨4, "p"⟩ "title" v).attrs ⟨4, "p"⟩).length = 2 := by
  intro d
  have all : d.attrs ⟨4, "p"⟩ = [("title", .chars "a"), ("title", .chars "b")] := by decide +kernel
  have isElement : (d.node? ⟨4, "p"⟩).map Node.kind = some .element := by decide +kernel
  obtain ⟨n, found, kind⟩ := Option.map_eq_some_iff.1 isElement
  have listed : ("title", .chars "a") ∈ d.attrs ⟨4, "p"⟩ := by rw [all]; exact List.mem_cons_self
  obtain ⟨-, reached, -⟩ := listed_reached found kind listed
  obtain ⟨before, first, after, shape, others, read, write⟩ := reached (by decide)
  replace shape := all.symm.trans shape
  rcases before with - | ⟨p, before⟩
  · cases shape
    exact ⟨read, fun v => congrArg List.length (write v)⟩
  · have same : p = ("title", .chars "a") := (List.cons.inj shape).1.symm
    exact absurd (congrArg Prod.fst same) (others p List.mem_cons_self)

/-- The capitals of a drawing hide its attribute. -/
theorem viewBox_missed :
    let d := Document.ofMarkup "<svg viewBox=\"0 0 1 1\"></svg>"
    let svg : ElementRef := ⟨4, "svg"⟩
    d.attrs svg = [("viewBox", .chars "0 0 1 1")] ∧ d.attr? svg "viewBox" = none ∧
      (d.setAttr svg "viewBox" "2").attrs svg = [("viewBox", .chars "0 0 1 1"), ("viewbox", .chars "2")] := by
  decide +kernel

end Document

end PageBinding
