import PageBinding.Proofs.Document.Numbering

/-!
Lookups. A lookup gives the first element in document order that a selector matches, in the document
or below one of its nodes. A selector that was read before is not read again, which changes no answer.
-/
namespace PageBinding

/-! ## Selectors that match elements only -/

theorem Condition.isElement_of_holds {p : Place} (c : Condition) (holds : c.holds p = true) :
    p.isElement = true := by
  cases c <;> simp_all [Condition.holds, Place.isTag]

namespace Selector

mutual

/-- Whether a selector matches elements only. Tests of a text or a language alone match other nodes
as well. -/
def picksElements : Selector → Bool
  | contains .. | matching .. | lang _ => false
  | all parts => parts.isEmpty || somePicksElements parts
  | combined _ _ second => picksElements second
  | _ => true

/-- Whether one of some selectors matches elements only. -/
def somePicksElements : List Selector → Bool
  | [] => false
  | s :: rest => picksElements s || somePicksElements rest

end

variable {p : Place}

mutual

theorem isElement_of_accepts : (s : Selector) → s.picksElements = true → s.accepts p = true →
    p.isElement = true
  | tag _, _, accepted => by simp_all [accepts, Place.isTag]
  | id _, _, accepted => by simp_all [accepts, Place.isTag]
  | hasClass _, _, accepted => by simp_all [accepts, Place.isTag]
  | attr .., _, accepted => by simp_all [accepts, Place.isTag]
  | all parts, picks, accepted => by
      simp only [accepts, Bool.and_eq_true, Bool.or_eq_true] at accepted
      simp only [picksElements, Bool.or_eq_true] at picks
      rcases picks with empty | some
      · simpa [empty] using accepted.1
      · exact isElement_of_acceptsAll parts some accepted.2
  | nested scrutiny _, _, accepted => by cases scrutiny <;> simp_all [accepts]
  | attrMatching .., _, accepted => by simp_all [accepts, Place.isTag]
  | nth .., _, accepted => by simp_all [accepts]
  | only _, _, accepted => by simp_all [accepts]
  | condition c, _, accepted => by
      rw [accepts] at accepted
      exact c.isElement_of_holds accepted
  | combined combinator first second, picks, accepted => by
      rw [picksElements] at picks
      apply isElement_of_accepts second picks
      cases combinator <;> simp_all [accepts]

theorem isElement_of_acceptsAll : (parts : List Selector) → somePicksElements parts = true →
    acceptsAll parts p = true → p.isElement = true
  | s :: rest, picks, accepted => by
      rw [acceptsAll, Bool.and_eq_true] at accepted
      rw [somePicksElements, Bool.or_eq_true] at picks
      rcases picks with here | later
      · exact isElement_of_accepts s here accepted.1
      · exact isElement_of_acceptsAll rest later accepted.2

end

theorem isElement_of_acceptsAny {group : List Selector} (picks : group.all picksElements = true)
    (accepted : acceptsAny group p = true) : p.isElement = true := by
  induction group with
  | nil => simp [acceptsAny] at accepted
  | cons s rest ih =>
    rw [acceptsAny, Bool.or_eq_true] at accepted
    rw [List.all_cons, Bool.and_eq_true] at picks
    rcases accepted with here | later
    · exact isElement_of_accepts s picks.1 here
    · exact ih picks.2 later

end Selector

namespace Document

/-! ## What is known -/

variable {known : Known} {selector : RawText} {group : List Selector}

/-- What is known is what reading gives. -/
def Right (known : Known) : Prop :=
  ∀ selector group, known.lookup selector = some group → Selector.parse selector = .ok group

theorem selectors_of_right (right : Right known) (valid : Selector.parse selector = .ok group) :
    ∃ after, selectors known selector = .ok (group, after) ∧ Right after := by
  unfold selectors
  cases found : known.lookup selector with
  | some other =>
    have same : other = group := Except.ok.inj ((right _ _ found).symm.trans valid)
    exact ⟨known, by rw [same], right⟩
  | none =>
    refine ⟨(selector, group) :: known, by simp [valid], fun other read isKnown => ?_⟩
    rw [List.lookup_cons] at isKnown
    cases same : other == selector with
    | true =>
      rw [same] at isKnown
      rw [eq_of_beq same, ← Option.some.inj isKnown, valid]
    | false =>
      rw [same] at isKnown
      exact right _ _ isKnown

theorem selectors_of_invalid {cause : SelectorError} (right : Right known)
    (invalid : Selector.parse selector = .error cause) :
    selectors known selector = .error ⟨selector, cause⟩ := by
  unfold selectors
  cases found : known.lookup selector with
  | some group =>
    have valid := right _ _ found
    rw [invalid] at valid
    cases valid
  | none => simp [invalid]

/-- A lookup gives the same whatever is known, and what is known afterwards is right again. -/
theorem lookup_known (right : Right known) (d : Document) (l : Lookup) :
    (d.lookup known l).1 = (d.lookup [] l).1 ∧ Right (d.lookup known l).2 := by
  have nothing : Right [] := fun _ _ isKnown => by cases isKnown
  unfold lookup
  cases read : Selector.parse l.selector with
  | ok group =>
    obtain ⟨after, given, right'⟩ := selectors_of_right right read
    obtain ⟨after', anew, -⟩ := selectors_of_right nothing read
    rw [given, anew]
    exact ⟨rfl, right'⟩
  | error cause =>
    rw [selectors_of_invalid right read, selectors_of_invalid nothing read]
    exact ⟨rfl, right⟩

/-- What is known after some lookups, each in a document as it was then. -/
def knownAfter (earlier : List (Document × Lookup)) : Known :=
  earlier.foldl (fun known look => (look.1.lookup known look.2).2) []

theorem right_knownAfter (earlier : List (Document × Lookup)) : Right (knownAfter earlier) := by
  have run (known : Known) (right : Right known) :
      Right (earlier.foldl (fun known look => (look.1.lookup known look.2).2) known) := by
    induction earlier generalizing known with
    | nil => exact right
    | cons look earlier ih => exact ih _ (lookup_known right look.1 look.2).2
  exact run [] fun _ _ isKnown => by cases isKnown

/-! ## The first element -/

/-- The answer to a search for the first of some places that pass a test. -/
def FirstOf (test : Place → Bool) (places : List Place) : Option ElementRef → Prop
  | none => ∀ p ∈ places, test p = false
  | some e => ∃ before p after, places = before ++ p :: after ∧ p.ref = e ∧ test p = true ∧
      ∀ q ∈ before, test q = false

theorem firstOf_find? (test : Place → Bool) (places : List Place) :
    FirstOf test places ((places.find? test).map Place.ref) := by
  cases found : places.find? test with
  | none => exact fun p mem => by simpa using List.find?_eq_none.1 found p mem
  | some p =>
    obtain ⟨passes, before, after, shape, others⟩ := List.find?_eq_some_iff_append.1 found
    exact ⟨before, p, after, shape, rfl, passes, by simpa using others⟩

theorem find?_elements {test : Place → Bool} (only : ∀ p, test p = true → p.isElement = true)
    (places : List Place) : (places.filter Place.isElement).find? test = places.find? test := by
  rw [List.find?_filter]
  congr 1
  funext p
  cases passes : test p with
  | true => simp [only p passes]
  | false => simp

variable {d : Document}

/-- Below a place, a lookup gives the first of the elements that match. -/
theorem lookup_below (valid : Selector.parse selector = .ok group)
    (only : ∀ p, Selector.acceptsAny group p = true → p.isElement = true)
    (inside : Option ElementRef) {p : Place} (start : d.start? inside = some p) :
    ∃ answer, (d.lookup [] ⟨inside, selector⟩).1 = .ok answer ∧
      FirstOf (Selector.acceptsAny group) (p.below.filter Place.isElement) answer := by
  have nothing : Right [] := fun _ _ isKnown => by cases isKnown
  obtain ⟨after, read, -⟩ := selectors_of_right nothing valid
  refine ⟨(p.below.find? (Selector.acceptsAny group)).map Place.ref, ?_, ?_⟩
  · simp only [lookup, read, start, Option.bind_some, Place.firstBelow?_eq_find?]
  · rw [← find?_elements only]
    exact firstOf_find? _ _

theorem mem_below_of_firstOf {test : Place → Bool} {places : List Place} {e : ElementRef}
    (first : FirstOf test places (some e)) : ∃ p ∈ places, p.ref = e := by
  obtain ⟨before, p, after, shape, isRef, -⟩ := first
  exact ⟨p, by simp [shape], isRef⟩

/-- A lookup in the document gives the first element that the selector matches, in the order in which
the elements are listed, and one inside a node the first among the elements below that node, which is
never the node itself. Both give nothing exactly if there is none, whatever was looked up before. Each
reference is to one node only. -/
theorem lookup_first (reached : d.Reached) (valid : Selector.parse selector = .ok group)
    (only : ∀ p, Selector.acceptsAny group p = true → p.isElement = true)
    (earlier : List (Document × Lookup)) :
    let test := Selector.acceptsAny group
    let listed := (d.place :: d.place.below).filter Place.isElement
    listed.map Place.label = d.elements ∧
    (∃ answer, d.query selector = .ok answer ∧
      (d.lookup (knownAfter earlier) ⟨none, selector⟩).1 = .ok answer ∧
      FirstOf test listed answer) ∧
    ∀ p ∈ d.places, d.placeOf? p.ref = some p ∧
      ∃ answer, d.queryFrom p.ref selector = .ok answer ∧
        (d.lookup (knownAfter earlier) ⟨some p.ref, selector⟩).1 = .ok answer ∧
        FirstOf test (p.below.filter Place.isElement) answer ∧
        ∀ e, answer = some e → e.index ≠ p.label.index := by
  intro test listed
  have sound := reached.sound
  have right := right_knownAfter earlier
  refine ⟨?_, ?_, fun p mem => ⟨sound.placeOf?_ref mem, ?_⟩⟩
  · rw [elements_eq_places, List.filter_map]
    rfl
  · obtain ⟨answer, given, first⟩ := lookup_below (d := d) valid only none rfl
    refine ⟨answer, given, (lookup_known right d _).1.trans given, ?_⟩
    have notElement : d.place.isElement = false := by
      have root : d.place.label.kind = .document := sound.root
      simp [Place.isElement, root]
    simpa [listed, notElement] using first
  · obtain ⟨answer, given, first⟩ := lookup_below valid only (some p.ref)
      (sound.placeOf?_ref mem)
    refine ⟨answer, given, (lookup_known right d _).1.trans given, first, ?_⟩
    rintro e rfl
    obtain ⟨q, below, rfl⟩ := mem_below_of_firstOf first
    exact sound.ne_of_below mem (List.mem_filter.1 below).1

/-- A page whose first match was taken out of it since the selector was read. -/
theorem lookup_first_rewritten :
    let page := Document.ofMarkup "<p><b></b></p><i></i>"
    let d := page.setReflected ⟨4, "p"⟩ "textContent" "x"
    let known := knownAfter [(page, ⟨none, "b, i"⟩)]
    ∃ group, Selector.parse "b, i" = .ok group ∧ ∃ answer,
      (d.lookup known ⟨none, "b, i"⟩).1 = .ok answer ∧
      FirstOf (Selector.acceptsAny group) ((d.place :: d.place.below).filter Place.isElement)
        answer := by
  intro page d known
  have reached : d.Reached := (Reached.ofMarkup _).setReflected _ _ _
  have valid : Selector.parse "b, i" = .ok [.tag "b", .tag "i"] := rfl
  have only (p : Place) (accepted : Selector.acceptsAny [.tag "b", .tag "i"] p = true) :
      p.isElement = true := Selector.isElement_of_acceptsAny rfl accepted
  obtain ⟨-, ⟨answer, -, given, first⟩, -⟩ :=
    lookup_first reached valid only [(page, ⟨none, "b, i"⟩)]
  exact ⟨_, valid, answer, given, first⟩

end Document

end PageBinding
