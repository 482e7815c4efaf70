import PageBinding.Proofs.Document.Order
import PageBinding.Proofs.Page.Bound
import PageBinding.Proofs.Page.Failures
import PageBinding.Proofs.Run.Effect

/-!
The bindings in the markup of a page. Each attribute with the mark of bindings is judged alone: it
registers a binding, or there is one failure for it.
-/
namespace PageBinding

theorem Registry.replay_registered {α : Type} (r : Registry α) (entries : List (Registration α)) :
    (entries.map Change.registered).foldl apply r = ⟨r.entries ++ entries⟩ := by
  induction entries generalizing r with
  | nil => simp
  | cons entry entries ih =>
      rw [List.map_cons, List.foldl_cons, ih]
      simp [apply, register]

namespace Label

/-- An element with some of its attributes only. -/
def keeping (keep : Attr → Bool) (label : Label) : Label :=
  { label with attrs := label.attrs.filter keep }

theorem findAttr_filter {keep : Attr → Bool} {key : String} {attrs : List Attr}
    (kept : ∀ a ∈ attrs, a.key = key → keep a = true) :
    findAttr key (attrs.filter keep) = findAttr key attrs := by
  induction attrs with
  | nil => rfl
  | cons a attrs ih =>
      have later := ih fun b mem => kept b (List.mem_cons_of_mem a mem)
      rw [List.filter_cons]
      by_cases here : keep a = true
      · rw [if_pos here, findAttr, findAttr, later]
      · have other : a.key ≠ key := fun same => here (kept a List.mem_cons_self same)
        rw [if_neg here, later, findAttr, if_neg (by simp [other])]

/-- An element is shown by its name and its id, which has no mark of bindings. -/
theorem shown_keeping {keep : Attr → Bool} {label : Label}
    (marked : ∀ a ∈ label.attrs, keep a = false → Text.endsWith a.key providerKey = true) :
    (label.keeping keep).shown = label.shown := by
  have kept : ∀ a ∈ label.attrs, a.key = Text.lower "id" → keep a = true := by
    intro a mem isId
    cases keeps : keep a with
    | true => rfl
    | false =>
        have ends := marked a mem keeps
        rw [isId] at ends
        exact absurd ends (by decide)
  have sameId : (label.keeping keep).attr? "id" = label.attr? "id" := findAttr_filter kept
  rw [shown, shown, sameId]
  rfl

end Label

namespace Page

variable {global context : Int} {e : ElementRef} {attr : String × RawText}

/-! ## One attribute -/

/-- The text of an attribute compiles, and its name is an event with the mark of bindings behind it. -/
structure IsBinding (global context : Int) (attr : String × RawText) (event : String)
    (program : Program) : Prop where
  name : attr.1 = event ++ providerKey
  named : event ≠ ""
  compiles : (Binding.build global context attr.2).result = .ok program

/-- What is wrong with an attribute whose name has the mark of bindings. -/
inductive IsFaulty (global context : Int) (attr : String × RawText) : PageError → Prop
  | unnamed : attr.1 = providerKey → IsFaulty global context attr (.notBinding attr.1)
  | malformed {event : String} {cause : BindingError} : attr.1 = event ++ providerKey → event ≠ "" →
      (Binding.build global context attr.2).result = .error cause →
      IsFaulty global context attr (.binding cause)

theorem boundEvent?_eq_some {name event : String} :
    boundEvent? name = some event ↔ name = event ++ providerKey ∧ event ≠ "" := by
  constructor
  · intro isFor
    by_cases marked : Text.endsWith name providerKey = true
    · obtain ⟨event', rfl⟩ := endsWith_providerKey.1 marked
      rw [boundEvent?_append] at isFor
      split at isFor
      · cases isFor
      · rename_i named
        cases isFor
        exact ⟨rfl, named⟩
    · rw [boundEvent?_of_not_ends marked] at isFor
      cases isFor
  · rintro ⟨rfl, named⟩
    rw [boundEvent?_append, if_neg named]

theorem attrBound?_eq_some {entry : Registration Setter} :
    attrBound? global context e attr = some entry ↔ ∃ event program,
      IsBinding global context attr event program ∧
        entry = ⟨e, event, ⟨⟨context, program⟩, some e⟩⟩ := by
  unfold attrBound? bound?
  constructor
  · intro bound
    obtain ⟨event, isFor, compiled⟩ := Option.bind_eq_some_iff.1 bound
    obtain ⟨name, named⟩ := boundEvent?_eq_some.1 isFor
    split at compiled
    · rename_i program compiles
      cases compiled
      exact ⟨event, program, ⟨name, named, compiles⟩, rfl⟩
    · cases compiled
  · rintro ⟨event, program, isBinding, rfl⟩
    rw [boundEvent?_eq_some.2 ⟨isBinding.name, isBinding.named⟩, Option.bind_some, isBinding.compiles]

/-- An attribute with the mark registers a binding and has no fault, or it has one and registers
nothing. -/
theorem attr_cases (global context : Int) (e : ElementRef)
    (marked : Text.endsWith attr.1 providerKey = true) :
    (∃ entry, attrBound? global context e attr = some entry ∧ attrFault? global context attr = none) ∨
    ∃ cause, attrBound? global context e attr = none ∧
      attrFault? global context attr = some cause ∧ IsFaulty global context attr cause := by
  obtain ⟨event, name⟩ := endsWith_providerKey.1 marked
  unfold attrBound? attrFault?
  rw [name, boundEvent?_append]
  by_cases named : event = ""
  · subst named
    rw [if_pos rfl, ← name]
    exact .inr ⟨_, rfl, rfl, .unnamed (name.trans (String.empty_append ..))⟩
  · rw [if_neg named, Option.bind_some, bound?]
    cases built : (Binding.build global context attr.2).result with
    | ok program => exact .inl ⟨_, rfl, rfl⟩
    | error cause => exact .inr ⟨_, rfl, rfl, .malformed name named built⟩

theorem attrFault?_eq_some (e : ElementRef) (marked : Text.endsWith attr.1 providerKey = true)
    (cause : PageError) : attrFault? global context attr = some cause ↔
      attrBound? global context e attr = none ∧ IsFaulty global context attr cause := by
  rcases attr_cases global context e marked with ⟨entry, bound, noFault⟩ | ⟨cause', unbound, fault, isFaulty⟩
  · rw [bound, noFault]
    constructor
    · intro fault
      cases fault
    · rintro ⟨unbound, -⟩
      cases unbound
  · rw [fault, Option.some.injEq]
    constructor
    · rintro rfl
      exact ⟨unbound, isFaulty⟩
    · rintro ⟨-, isFaulty'⟩
      cases isFaulty with
      | unnamed name =>
          cases isFaulty' with
          | unnamed => rfl
          | malformed name' named => exact absurd (name'.symm.trans name) (by simpa using named)
      | malformed name named failed =>
          cases isFaulty' with
          | unnamed name' => exact absurd (name.symm.trans name') (by simpa using named)
          | malformed _ _ failed' =>
              rw [failed] at failed'
              cases failed'
              rfl

/-! ## All attributes -/

theorem length_attrs (global context : Int) (e : ElementRef) (shown : String) (attrs : List (String × RawText)) :
    (attrs.filterMap (attrBound? global context e)).length +
        (attrFaults global context shown attrs).length =
      attrs.countP fun attr => Text.endsWith attr.1 providerKey := by
  induction attrs with
  | nil => rfl
  | cons attr attrs ih =>
      rw [List.countP_cons, ← ih]
      by_cases marked : Text.endsWith attr.1 providerKey = true
      · rcases attr_cases global context e marked with ⟨entry, bound, noFault⟩ | ⟨cause, unbound, fault, -⟩
        · simp [attrFaults, marked, bound, noFault, Nat.add_right_comm]
        · simp [attrFaults, marked, unbound, fault, Nat.add_assoc]
      · simp [attrFaults, marked, attrBound?_of_unmarked e marked attr.2]

theorem length_markup (global context : Int) (labels : List Label) :
    (markupBound global context labels).length + (markupFaults global context labels).length =
      (labels.flatMap Label.plainAttrs).countP fun attr => Text.endsWith attr.1 providerKey := by
  induction labels with
  | nil => rfl
  | cons label labels ih =>
      have here := length_attrs global context ⟨label.index, label.name⟩ label.shown label.plainAttrs
      rw [markupBound, markupFaults] at ih
      rw [markupBound, markupFaults, List.flatMap_cons, List.flatMap_cons, List.flatMap_cons,
        List.length_append, List.length_append, List.countP_append, ← ih, ← here]
      omega

/-- What the markup registers on an element is what the attributes of this element register. -/
theorem markupBound_ofElement (global context : Int) (labels : List Label) (e : ElementRef) :
    (markupBound global context labels).filter (fun entry => entry.element = e) =
      (labels.filter fun label => (⟨label.index, label.name⟩ : ElementRef) = e).flatMap fun label =>
        label.plainAttrs.filterMap (attrBound? global context e) := by
  have onOwn {own : ElementRef} {attrs : List (String × RawText)} :
      ∀ entry ∈ attrs.filterMap (attrBound? global context own), entry.element = own := by
    intro entry mem
    obtain ⟨attr, -, bound⟩ := List.mem_filterMap.1 mem
    obtain ⟨event, program, -, rfl⟩ := attrBound?_eq_some.1 bound
    rfl
  induction labels with
  | nil => rfl
  | cons label labels ih =>
      rw [markupBound] at ih
      rw [markupBound, List.flatMap_cons, List.filter_append, ih, List.filter_cons]
      by_cases here : (⟨label.index, label.name⟩ : ElementRef) = e
      · rw [if_pos (decide_eq_true here), List.flatMap_cons, here, List.filter_eq_self.2]
        exact fun entry mem => decide_eq_true (onOwn entry mem)
      · rw [if_neg (by simpa using here), List.filter_eq_nil_iff.2, List.nil_append]
        intro entry mem
        simpa [onOwn entry mem] using here

/-- Leaving out attributes that fail changes nothing about the others. -/
theorem attrBound?_keeping {keep : Attr → Bool} {label : Label}
    (failing : ∀ a ∈ label.attrs, keep a = false →
      attrBound? global context e (a.key, a.value) = none) :
    (label.keeping keep).plainAttrs.filterMap (attrBound? global context e) =
      label.plainAttrs.filterMap (attrBound? global context e) := by
  rw [Label.keeping, Label.plainAttrs, Label.plainAttrs, List.filterMap_map, List.filterMap_map,
    List.filterMap_filter, List.filterMap_filter, List.filterMap_filter]
  refine List.filterMap_congr fun a mem => ?_
  cases keeps : keep a with
  | true => rfl
  | false => simp [failing a mem keeps]

theorem markup_keeping {keep : Label → Attr → Bool} {labels : List Label}
    (failing : ∀ label ∈ labels, ∀ a ∈ label.attrs, keep label a = false →
      Text.endsWith a.key providerKey = true ∧
        ∀ e, attrBound? global context e (a.key, a.value) = none) :
    let others := labels.map fun label => label.keeping (keep label)
    markupBound global context others = markupBound global context labels ∧
      (markupFaults global context others).Sublist (markupFaults global context labels) := by
  induction labels with
  | nil => exact ⟨rfl, .slnil⟩
  | cons label labels ih =>
      obtain ⟨bound, faults⟩ := ih fun label' mem => failing label' (List.mem_cons_of_mem label mem)
      have here := failing label List.mem_cons_self
      have shown := Label.shown_keeping fun a mem keeps => (here a mem keeps).1
      constructor
      · rw [markupBound, markupBound] at bound
        rw [markupBound, markupBound, List.map_cons, List.flatMap_cons, List.flatMap_cons, bound]
        congr 1
        exact attrBound?_keeping fun a mem keeps => (here a mem keeps).2 _
      · rw [markupFaults, markupFaults] at faults
        rw [markupFaults, markupFaults, List.map_cons, List.flatMap_cons, List.flatMap_cons, shown]
        refine List.Sublist.append ?_ faults
        exact (((List.filter_sublist.filter _).map _).filter _).filterMap _

/-- Binding the markup of a page registers, on each element, the bindings among its attributes in their
order: one for each attribute whose name is an event with the mark of bindings behind it and whose text
compiles. For each other attribute with the mark there is one failure, in the order of the document, and
the error that is raised has these as its parts. The number that is logged is that of the registrations.
An attribute is judged by its own name and text: if failing attributes are left out of the markup, what
the others register is the same, and no failure is new. -/
theorem bindMarkup_registers_valid {p : Page} (events : p.services.events = true) (context : Int) :
    let global := p.settings.global
    let labels := p.world.document.elements
    let bound := markupBound global context labels
    let faults := markupFaults global context labels
    labels = ((p.world.document.place :: p.world.document.place.below).map Place.label).filter
      (fun label => label.kind = .element) ∧
    (∃ q, (faults = [] ∧ bindMarkup context p = .ok () q ∨
        ∃ cause, faults ≠ [] ∧ bindMarkup context p = .error cause q ∧ cause.parts = faults) ∧
      q.world = p.world ∧ q.registry.entries = p.registry.entries ++ bound ∧
      (∀ e, q.registry.ofElement e = p.registry.ofElement e ++
        (labels.filter fun label => (⟨label.index, label.name⟩ : ElementRef) = e).flatMap fun label =>
          label.plainAttrs.filterMap (attrBound? global context e)) ∧
      q.log.getLast? = some ⟨.debug, "Bound markup", [("bindings", .int bound.length)]⟩) ∧
    (bound.length + faults.length =
      (labels.flatMap Label.plainAttrs).countP fun attr => Text.endsWith attr.1 providerKey) ∧
    (∀ e attr,
      (∀ entry, attrBound? global context e attr = some entry ↔ ∃ event program,
        IsBinding global context attr event program ∧
          entry = ⟨e, event, ⟨⟨context, program⟩, some e⟩⟩) ∧
      (Text.endsWith attr.1 providerKey = true → ∀ cause,
        attrFault? global context attr = some cause ↔
          attrBound? global context e attr = none ∧ IsFaulty global context attr cause)) ∧
    ∀ keep : Label → Attr → Bool, (∀ label ∈ labels, ∀ a ∈ label.attrs, keep label a = false →
        Text.endsWith a.key providerKey = true ∧
          ∀ e, attrBound? global context e (a.key, a.value) = none) →
      let others := labels.map fun label => label.keeping (keep label)
      markupBound global context others = bound ∧
        (markupFaults global context others).Sublist faults := by
  intro global labels bound faults
  have single : ∀ fault ∈ faults, fault.parts = [fault] := by
    intro fault mem
    obtain ⟨label, -, inLabel⟩ := List.mem_flatMap.1 mem
    obtain ⟨attr, -, isFault⟩ := List.mem_filterMap.1 inLabel
    obtain ⟨cause, -, rfl⟩ := Option.map_eq_some_iff.1 isFault
    rfl
  obtain ⟨q, raised, ⟨log, changed⟩, logged⟩ := bindMarkup_outcome events context
  have registry : q.registry = ⟨p.registry.entries ++ bound⟩ := by
    rw [changed]
    exact Registry.replay_registered p.registry bound
  refine ⟨p.world.document.elements_eq_places, ⟨q, ?_, by rw [changed], by rw [registry], ?_, logged⟩,
    length_markup global context labels, ?_, fun keep failing => markup_keeping failing⟩
  · rw [raised]
    exact raise_cases single q
  · intro e
    rw [← markupBound_ofElement, registry]
    exact List.filter_append ..
  · intro e attr
    exact ⟨fun entry => attrBound?_eq_some, fun marked cause => attrFault?_eq_some e marked cause⟩

/-- A world with one element, which has two attributes with the mark of bindings. There is no event before
the first mark. -/
def markedWorld : World :=
  { World.empty with
    document := .ofNodes [.node ⟨1, .element, "p", "", [⟨"", ".setvalue", "x = $element"⟩,
      ⟨"", "click.setvalue", "x = $element"⟩], ""⟩ []] 2 }

theorem markupFaults_markedWorld :
    markupFaults 0 1 markedWorld.document.elements =
      [.at "<p> .setvalue" (.notBinding ".setvalue")] := by
  have unnamed : attrFault? 0 1 (".setvalue", "x = $element") = some (.notBinding ".setvalue") := rfl
  have click : attrFault? 0 1 ("click.setvalue", "x = $element") = none := by
    rw [attrFault?, show boundEvent? "click.setvalue" = some "click" from rfl]
    simp only [build_storesElement]
  let attrs : List (String × RawText) :=
    [(".setvalue", .chars "x = $element"), ("click.setvalue", .chars "x = $element")]
  have marked : attrs.filter (fun attr => Text.endsWith attr.1 providerKey) = attrs := rfl
  show attrFaults 0 1 "<p>" attrs ++ [] = _
  rw [attrFaults, marked]
  simp only [attrs, List.filterMap_cons, unnamed, click, Option.map_none, Option.map_some]
  rfl

/-- The attribute without an event fails, and the one after it is registered. -/
theorem markedWorld_registers :
    ∃ cause q, bindMarkup 1 (Page.new markedWorld {} {}) = .error cause q ∧
      cause.parts = [.at "<p> .setvalue" (.notBinding ".setvalue")] ∧
      q.registry.ofElement ⟨1, "p"⟩ =
        [⟨⟨1, "p"⟩, "click", ⟨⟨1, storesElement⟩, some ⟨1, "p"⟩⟩⟩] := by
  obtain ⟨-, ⟨q, outcome, -, -, onElement, -⟩, -, judged, -⟩ :=
    bindMarkup_registers_valid (p := Page.new markedWorld {} {}) rfl 1
  have unnamed : attrBound? 0 1 ⟨1, "p"⟩ (".setvalue", "x = $element") = none := rfl
  have click := ((judged ⟨1, "p"⟩ ("click.setvalue", "x = $element")).1 _).2
    ⟨"click", storesElement, ⟨rfl, by decide, build_storesElement⟩, rfl⟩
  obtain ⟨nothing, -⟩ | ⟨cause, -, failed, parts⟩ := outcome
  · cases nothing.symm.trans markupFaults_markedWorld
  · refine ⟨cause, q, failed, parts.trans markupFaults_markedWorld, (onElement _).trans ?_⟩
    show [] ++ ([(".setvalue", .chars "x = $element"), ("click.setvalue", .chars "x = $element")].filterMap
      (attrBound? 0 1 ⟨1, "p"⟩) ++ []) = _
    simp only [List.filterMap_cons, unnamed, show attrBound? 0 1 ⟨1, "p"⟩ _ = _ from click]
    rfl

end Page

end PageBinding
