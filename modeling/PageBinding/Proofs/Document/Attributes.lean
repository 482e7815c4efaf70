import PageBinding.Document.Property
import Mathlib.Data.List.Basic

/-!
Writing an attribute. The name is looked for as it is read, among the attributes in no name space
and by the first entry: that entry has the value then, or there is a new one at the end. No other
entry changes, and no other node.
-/
namespace PageBinding

namespace Label

variable {key : String} {attrs : List Attr}

/-- The names of attributes with their name spaces, in order. -/
def names (attrs : List Attr) : List (String × String) :=
  attrs.map fun a => (a.space, a.key)

theorem findAttr_replaceAttr (value : RawText) (other : String) :
    findAttr other (replaceAttr key value attrs) =
      if other = key then some value else findAttr other attrs := by
  induction attrs with
  | nil => simp [replaceAttr, findAttr, eq_comm]
  | cons a rest ih =>
    by_cases here : a.space = "" ∧ a.key = key
    · obtain ⟨plain, rfl⟩ := here
      by_cases same : other = a.key
      · simp [replaceAttr, findAttr, plain, same]
      · simp [replaceAttr, findAttr, plain, same, Ne.symm same]
    · have passed : (decide (a.space = "") && decide (a.key = key)) = false := by
        simpa using here
      rw [replaceAttr, passed, if_neg Bool.false_ne_true, findAttr, findAttr, ih]
      by_cases same : other = key
      · subst same
        simp [passed]
      · simp [same]

/-- What writing an attribute can do to the entries. -/
theorem replaceAttr_cases (key : String) (attrs : List Attr) :
    ((∀ a ∈ attrs, a.space = "" → a.key ≠ key) ∧ findAttr key attrs = none ∧
        ∀ value, replaceAttr key value attrs = attrs ++ [⟨"", key, value⟩]) ∨
      ∃ (before : List Attr) (old : Attr) (after : List Attr), attrs = before ++ old :: after ∧
        (∀ a ∈ before, a.space = "" → a.key ≠ key) ∧ old.space = "" ∧ old.key = key ∧
        findAttr key attrs = some old.value ∧
        ∀ value, replaceAttr key value attrs = before ++ { old with value } :: after := by
  induction attrs with
  | nil => exact .inl ⟨by simp, rfl, fun _ => rfl⟩
  | cons a rest ih =>
    simp only [findAttr, replaceAttr]
    by_cases here : (decide (a.space = "") && decide (a.key = key)) = true
    · have isKey : a.space = "" ∧ a.key = key := by simpa using here
      exact .inr ⟨[], a, rest, rfl, by simp, isKey.1, isKey.2, by simp [isKey], by simp [isKey]⟩
    · have passed : a.space = "" → a.key ≠ key := by simpa using here
      simp only [if_neg here]
      rcases ih with ⟨others, absent, added⟩ |
        ⟨before, old, after, shape, others, space, same, found, changed⟩
      · refine .inl ⟨List.forall_mem_cons.2 ⟨passed, others⟩, absent, fun value => ?_⟩
        rw [added, List.cons_append]
      · refine .inr ⟨a :: before, old, after, ?_, List.forall_mem_cons.2 ⟨passed, others⟩, space,
          same, found, fun value => ?_⟩
        · rw [shape, List.cons_append]
        · rw [changed, List.cons_append]

theorem names_replaceAttr (key : String) (value : RawText) (attrs : List Attr) :
    names (replaceAttr key value attrs) =
      names attrs ++ if (findAttr key attrs).isSome then [] else [("", key)] := by
  rcases replaceAttr_cases key attrs with
    ⟨-, absent, added⟩ | ⟨before, old, after, shape, -, -, -, found, changed⟩
  · simp [absent, added, names]
  · simp [found, changed, names, congrArg (List.map _) shape]

/-- Only one entry changes, or is new. -/
theorem getElem?_replaceAttr (key : String) (value : RawText) (attrs : List Attr) :
    ∃ i, ∀ j : Nat, j ≠ i → (replaceAttr key value attrs)[j]? = attrs[j]? := by
  rcases replaceAttr_cases key attrs with
    ⟨-, -, added⟩ | ⟨before, old, after, shape, -, -, -, -, changed⟩
  · refine ⟨attrs.length, fun j ne => ?_⟩
    rw [added]
    rcases Nat.lt_or_gt_of_ne ne with inside | outside
    · exact List.getElem?_append_left inside
    · rw [List.getElem?_eq_none (Nat.le_of_lt outside), List.getElem?_eq_none]
      rw [List.length_append]
      exact outside
  · refine ⟨before.length, fun j ne => ?_⟩
    have set : replaceAttr key value attrs = attrs.set before.length { old with value } := by
      rw [changed, shape]
      simp
    rw [set, List.getElem?_set_ne ne.symm]

/-- The attributes but for those of a key in no name space. -/
def without (key : String) (attrs : List Attr) : List Attr :=
  attrs.filter fun a => !(a.space = "" && a.key = key)

theorem without_replaceAttr (key : String) (value : RawText) (attrs : List Attr) :
    without key (replaceAttr key value attrs) = without key attrs := by
  rcases replaceAttr_cases key attrs with
    ⟨-, -, added⟩ | ⟨before, old, after, shape, -, space, same, -, changed⟩
  · simp [added, without]
  · simp [changed, congrArg (List.filter _) shape, without, space, same]

/-- The attributes in no name space, as pairs of name and value. -/
def listed (attrs : List Attr) : List (String × RawText) :=
  (attrs.filter (·.space = "")).map fun a => (a.key, a.value)

theorem names_listed (attrs : List Attr) :
    (listed attrs).map Prod.fst = ((names attrs).filter (·.1 = "")).map Prod.snd := by
  simp only [listed, names, List.filter_map, List.map_map]
  rfl

theorem ne_of_mem_listed {key : String} {attrs : List Attr}
    (others : ∀ a ∈ attrs, a.space = "" → a.key ≠ key) : ∀ p ∈ listed attrs, p.1 ≠ key := by
  intro p mem
  obtain ⟨a, inside, rfl⟩ := List.mem_map.1 mem
  rw [List.mem_filter, decide_eq_true_eq] at inside
  exact others a inside.1 inside.2

end Label

/-! ## Finding a node in a changed document -/

namespace Node

variable {index other : Nat} {f : Node → Node}

theorem find?_of_index {n : Node} (here : n.label.index = index) : n.find? index = some n := by
  cases n with
  | node label children => exact if_pos here

theorem find?_of_ne {n : Node} (elsewhere : n.label.index ≠ index) :
    n.find? index = findAll? index n.children := by
  cases n with
  | node label children => exact if_neg elsewhere

mutual

theorem find?_modify_self (keeps : ∀ n, (f n).label.index = n.label.index) :
    (n : Node) → (n.modify index f).find? index = (n.find? index).map f
  | node label children => by
    rw [modify, find?]
    split
    · rename_i here
      exact find?_of_index ((keeps _).trans here)
    · rename_i elsewhere
      rw [find?, if_neg elsewhere, findAll?_modifyAll_self keeps]

theorem findAll?_modifyAll_self (keeps : ∀ n, (f n).label.index = n.label.index) :
    (ns : List Node) → findAll? index (modifyAll index f ns) = (findAll? index ns).map f
  | [] => rfl
  | n :: ns => by
    rw [modifyAll, findAll?, findAll?, find?_modify_self keeps, findAll?_modifyAll_self keeps,
      Option.map_or]

end

mutual

/-- If a node is changed but for its number and the nodes in it, every other node is what it was. -/
theorem label_find?_modify (ne : other ≠ index) (keeps : ∀ n, (f n).label.index = n.label.index)
    (holds : ∀ n, (f n).children = n.children) :
    (n : Node) → ((n.modify index f).find? other).map label = (n.find? other).map label
  | node label children => by
    rw [modify]
    split
    · rename_i here
      have number : (f (node label children)).label.index = index := (keeps _).trans here
      have elsewhere : (node label children).label.index ≠ other :=
        fun same => ne (same.symm.trans here)
      rw [find?_of_ne elsewhere, find?_of_ne (fun same => ne (same.symm.trans number)), holds]
    · rw [find?, find?]
      split
      · rfl
      · exact label_findAll?_modifyAll ne keeps holds children

theorem label_findAll?_modifyAll (ne : other ≠ index)
    (keeps : ∀ n, (f n).label.index = n.label.index) (holds : ∀ n, (f n).children = n.children) :
    (ns : List Node) →
      (findAll? other (modifyAll index f ns)).map label = (findAll? other ns).map label
  | [] => rfl
  | n :: ns => by
    rw [modifyAll, findAll?, findAll?, Option.map_or, Option.map_or,
      label_find?_modify ne keeps holds, label_findAll?_modifyAll ne keeps holds]

end

end Node

namespace Document

variable {d : Document} {e : ElementRef}

/-- All attributes of a node, those in a name space included. -/
def allAttrs (d : Document) (e : ElementRef) : List Attr :=
  ((d.node? e).map fun n => n.label.attrs).getD []

theorem attr?_eq (d : Document) (e : ElementRef) (name : String) :
    d.attr? e name = Label.findAttr (Text.lower name) (d.allAttrs e) := by
  unfold attr? allAttrs
  cases d.node? e <;> rfl

theorem attrs_eq (d : Document) (e : ElementRef) : d.attrs e = Label.listed (d.allAttrs e) := by
  unfold attrs allAttrs
  cases d.node? e <;> rfl

theorem node?_setAttr (d : Document) (e : ElementRef) (name : String) (value : RawText) :
    (d.setAttr e name value).node? e =
      (d.node? e).map fun n => .node (n.label.setAttr name value) n.children :=
  Node.findAll?_modifyAll_self (f := fun n => .node (n.label.setAttr name value) n.children)
    (fun _ => rfl) (d.root :: d.detached)

theorem allAttrs_setAttr (found : (d.node? e).isSome = true) (name : String) (value : RawText) :
    (d.setAttr e name value).allAttrs e =
      Label.replaceAttr (Text.lower name) value (d.allAttrs e) := by
  obtain ⟨n, found⟩ := Option.isSome_iff_exists.1 found
  rw [allAttrs, node?_setAttr, allAttrs, found]
  rfl

theorem attr?_setAttr (found : (d.node? e).isSome = true) (name : String) (value : RawText)
    (other : String) :
    (d.setAttr e name value).attr? e other =
      if Text.lower other = Text.lower name then some value else d.attr? e other := by
  rw [attr?_eq, allAttrs_setAttr found, Label.findAttr_replaceAttr, ← attr?_eq]

theorem label_setAttr {other : ElementRef} (ne : other.index ≠ e.index) (name : String)
    (value : RawText) :
    ((d.setAttr e name value).node? other).map Node.label = (d.node? other).map Node.label :=
  Node.label_findAll?_modifyAll (f := fun n => .node (n.label.setAttr name value) n.children) ne
    (fun _ => rfl) (fun _ => rfl) (d.root :: d.detached)

theorem allAttrs_congr {d' : Document} {other : ElementRef}
    (same : (d'.node? other).map Node.label = (d.node? other).map Node.label) :
    d'.allAttrs other = d.allAttrs other := by
  have attrs := congrArg (Option.map Label.attrs) same
  rw [Option.map_map, Option.map_map] at attrs
  exact congrArg (Option.getD · []) attrs

/-- What a name means among the attributes that are listed. -/
theorem setAttr_listed (found : (d.node? e).isSome = true) (name : String) :
    ((∀ p ∈ d.attrs e, p.1 ≠ Text.lower name) ∧ d.attr? e name = none ∧
        ∀ v, (d.setAttr e name v).attrs e = d.attrs e ++ [(Text.lower name, v)]) ∨
      ∃ before first after, d.attrs e = before ++ (Text.lower name, first) :: after ∧
        (∀ p ∈ before, p.1 ≠ Text.lower name) ∧ d.attr? e name = some first ∧
        ∀ v, (d.setAttr e name v).attrs e = before ++ (Text.lower name, v) :: after := by
  simp only [attrs_eq, attr?_eq, allAttrs_setAttr found]
  rcases Label.replaceAttr_cases (Text.lower name) (d.allAttrs e) with
    ⟨others, absent, added⟩ | ⟨before, old, after, shape, others, space, same, read, changed⟩
  · refine .inl ⟨Label.ne_of_mem_listed others, absent, fun v => ?_⟩
    simp [added, Label.listed]
  · refine .inr ⟨Label.listed before, old.value, Label.listed after, ?_,
      Label.ne_of_mem_listed others, read, fun v => ?_⟩
    · simp [shape, Label.listed, space, same]
    · simp [changed, Label.listed, space, same]

/-- After an attribute of a node is written, reading gives the value for every name that is the same
in lower case, and what it gave before for every other name. The names are those that there were, in
order, and a new one at the end if there was none; at most one entry changes. No other node has its
attributes changed. -/
theorem setAttr_laws (found : (d.node? e).isSome = true) (name : String) (value : RawText) :
    let d' := d.setAttr e name value
    let added := if (d.attr? e name).isSome then [] else [Text.lower name]
    (∀ m, d'.attr? e m = if Text.lower m = Text.lower name then some value else d.attr? e m) ∧
      (d'.attrs e).map Prod.fst = (d.attrs e).map Prod.fst ++ added ∧
      Label.names (d'.allAttrs e) = Label.names (d.allAttrs e) ++ added.map (("", ·)) ∧
      (∃ i, ∀ j : Nat, j ≠ i → (d'.allAttrs e)[j]? = (d.allAttrs e)[j]?) ∧
      ∀ other : ElementRef, other.index ≠ e.index → d'.allAttrs other = d.allAttrs other := by
  intro d' added
  have written : d'.allAttrs e = _ := allAttrs_setAttr found name value
  have names : Label.names (d'.allAttrs e) =
      Label.names (d.allAttrs e) ++ added.map (("", ·)) := by
    rw [written, Label.names_replaceAttr, ← attr?_eq]
    simp only [added]
    split <;> rfl
  refine ⟨attr?_setAttr found name value, ?_, names, ?_, fun other ne => ?_⟩
  · simp only [attrs_eq, Label.names_listed]
    rw [names, List.filter_append, List.map_append]
    simp [List.filter_map, Function.comp_def]
  · rw [written]
    exact Label.getElem?_replaceAttr _ _ _
  · exact allAttrs_congr (label_setAttr ne _ _)

/-- Of two entries of one name the first is written, under whatever case. -/
theorem setAttr_laws_repeated :
    let d := Document.ofMarkup "<p title=a title=b>"
    let d' := d.setAttr ⟨4, "p"⟩ "Title" "c"
    d.attrs ⟨4, "p"⟩ = [("title", .chars "a"), ("title", .chars "b")] ∧ d'.attr? ⟨4, "p"⟩ "TITLE" = some (.chars "c") ∧
      (d'.attrs ⟨4, "p"⟩).map Prod.fst = ["title", "title"] := by
  intro d d'
  have listed : d.attrs ⟨4, "p"⟩ = [("title", .chars "a"), ("title", .chars "b")] := by decide +kernel
  have present : (d.attr? ⟨4, "p"⟩ "Title").isSome = true := by decide +kernel
  have found : (d.node? ⟨4, "p"⟩).isSome = true := by decide +kernel
  obtain ⟨read, names, -⟩ := setAttr_laws found "Title" "c"
  refine ⟨listed, (read "TITLE").trans (if_pos (by decide)), ?_⟩
  rw [names, present, listed]
  rfl

end Document

end PageBinding
