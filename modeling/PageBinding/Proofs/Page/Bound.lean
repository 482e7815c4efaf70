import PageBinding.Proofs.Page.Parsed
import PageBinding.Proofs.Page.Registrations

/-!
What binding registers on a page: the bindings whose texts compile, each with the element and the event
that it is for. A text that does not compile leaves all but the log.
-/
namespace PageBinding.Page

open Registry (Change)

/-! ## Names of attributes -/

theorem endsWith_providerKey {name : String} :
    Text.endsWith name providerKey = true ↔ ∃ event, name = event ++ providerKey := by
  rw [Text.endsWith, List.isSuffixOf_iff_suffix]
  constructor
  · rintro ⟨event, isName⟩
    refine ⟨String.ofList event, String.toList_inj.1 ?_⟩
    rw [String.toList_append, String.toList_ofList, isName]
  · rintro ⟨event, rfl⟩
    rw [String.toList_append]
    exact List.suffix_append _ _

theorem boundEvent?_append (event : String) :
    boundEvent? (event ++ providerKey) = if event = "" then none else some event := by
  have cut : Text.dropEnd? providerKey.toList (event ++ providerKey).toList = some event.toList := by
    have ends : providerKey.toList.isSuffixOf (event ++ providerKey).toList = true :=
      endsWith_providerKey.2 ⟨event, rfl⟩
    rw [Text.dropEnd?, if_pos ends]
    simp
  rw [boundEvent?, cut]
  cases chars : event.toList with
  | nil =>
    have empty : event = "" := String.toList_inj.1 chars
    simp [empty]
  | cons c cs =>
    have named : event ≠ "" := by
      rintro rfl
      cases chars
    rw [if_neg named]
    show some (String.ofList (c :: cs)) = some event
    rw [← chars, String.ofList_toList]

theorem boundEvent?_of_not_ends {name : String} (not : Text.endsWith name providerKey ≠ true) :
    boundEvent? name = none := by
  have uncut : Text.dropEnd? providerKey.toList name.toList = none := if_neg not
  rw [boundEvent?, uncut]

/-! ## One binding -/

/-- What a text registers on an element for an event, if it compiles. -/
def bound? (global context : Int) (e : ElementRef) (event : String) (text : RawText) :
    Option (Registration Setter) :=
  match (Binding.build global context text).result with
  | .ok program => some ⟨e, event, ⟨⟨context, program⟩, some e⟩⟩
  | .error _ => none

/-- What an attribute of an element registers. -/
def attrBound? (global context : Int) (e : ElementRef) (attr : String × RawText) :
    Option (Registration Setter) :=
  (boundEvent? attr.1).bind fun event => bound? global context e event attr.2

theorem attrBound?_of_unmarked {global context : Int} (e : ElementRef) {name : String}
    (unmarked : Text.endsWith name providerKey ≠ true) (text : RawText) :
    attrBound? global context e (name, text) = none := by
  rw [attrBound?, boundEvent?_of_not_ends unmarked]
  rfl

/-- What is wrong with an attribute that registers nothing. -/
def attrFault? (global context : Int) (attr : String × RawText) : Option PageError :=
  match boundEvent? attr.1 with
  | none => some (.notBinding attr.1)
  | some _ =>
    match (Binding.build global context attr.2).result with
    | .ok _ => none
    | .error cause => some (.binding cause)

/-- A page with something logged and its registry changed, and all else as it was. -/
def Changed (p : Page) (changes : List (Change Setter)) (q : Page) : Prop :=
  ∃ log, q = { p with log, registry := changes.foldl Registry.apply p.registry }

theorem Changed.trans {p q r : Page} {changes later : List (Change Setter)}
    (h : Changed p changes q) (h' : Changed q later r) : Changed p (changes ++ later) r := by
  obtain ⟨log, rfl⟩ := h
  obtain ⟨log', rfl⟩ := h'
  exact ⟨log', by simp⟩

theorem Changed.settings {p q : Page} {changes : List (Change Setter)} (h : Changed p changes q) :
    q.settings = p.settings := by
  obtain ⟨log, rfl⟩ := h
  rfl

theorem Changed.services {p q : Page} {changes : List (Change Setter)} (h : Changed p changes q) :
    q.services = p.services := by
  obtain ⟨log, rfl⟩ := h
  rfl

theorem Changed.world {p q : Page} {changes : List (Change Setter)} (h : Changed p changes q) :
    q.world = p.world := by
  obtain ⟨log, rfl⟩ := h
  rfl

variable {p : Page}

theorem parseAttr_cases (events : p.services.events = true) (e : ElementRef) (name : String)
    (text : RawText) (context : Int) :
    (∃ cause q, parseAttr e name text context p = .error cause q ∧
      attrBound? p.settings.global context e (name, text) = none ∧ Changed p [] q ∧
      attrFault? p.settings.global context (name, text) = some cause) ∨
    ∃ intent entry q, parseAttr e name text context p = .ok intent q ∧
      attrBound? p.settings.global context e (name, text) = some entry ∧
      Changed p [.registered entry] q ∧
      attrFault? p.settings.global context (name, text) = none := by
  unfold parseAttr attrBound? attrFault?
  cases isFor : boundEvent? name with
  | none => exact .inl ⟨_, p, rfl, rfl, ⟨p.log, rfl⟩, rfl⟩
  | some event =>
    obtain ⟨log, parsed⟩ := parse_eq text context p
    dsimp only [Option.bind_some, bound?]
    cases built : (Binding.build p.settings.global context text).result with
    | error cause =>
      rw [built] at parsed
      exact .inl ⟨_, _, bind_of_error parsed _, rfl, ⟨log, rfl⟩, rfl⟩
    | ok program =>
      rw [built] at parsed
      refine .inr ⟨⟨context, program⟩, _, _, ?_, rfl, ⟨log, rfl⟩, rfl⟩
      rw [bind_of_ok parsed, get_bind, if_pos events]
      rfl

theorem element_found {selector : RawText} {p : Page} {e : ElementRef}
    (found : p.world.document.query selector = .ok (some e)) : element selector p = .ok e p := by
  unfold element
  rw [get_bind, found]
  rfl

/-- A selector finds an element of the page, or there is none and nothing changes. -/
theorem element_cases (selector : RawText) (p : Page) :
    (∃ e, p.world.document.query selector = .ok (some e) ∧ element selector p = .ok e p) ∨
    ∃ cause, (∀ e, p.world.document.query selector ≠ .ok (some e)) ∧
      element selector p = .error cause p := by
  unfold element
  rw [get_bind]
  cases p.world.document.query selector with
  | error cause => exact .inr ⟨.query cause, nofun, rfl⟩
  | ok element? =>
    cases element? with
    | none => exact .inr ⟨.noMatch selector, by simp, rfl⟩
    | some e => exact .inl ⟨e, rfl, rfl⟩

/-! ## The bindings of a page -/

/-- What is wrong with the attributes of an element that have the mark of bindings. -/
def attrFaults (global context : Int) (shown : String) (attrs : List (String × RawText)) :
    List PageError :=
  (attrs.filter fun attr => Text.endsWith attr.1 providerKey).filterMap fun attr =>
    (attrFault? global context attr).map (.at (shown ++ " " ++ attr.1))

theorem bindAttrs_outcome (events : p.services.events = true) (e : ElementRef) (shown : String)
    (context : Int) (attrs : List (String × RawText)) :
    (bindAttrs e shown context attrs p).1 = (attrFaults p.settings.global context shown attrs,
      (attrs.filterMap (attrBound? p.settings.global context e)).length) ∧
    Changed p ((attrs.filterMap (attrBound? p.settings.global context e)).map .registered)
      (bindAttrs e shown context attrs p).2 := by
  induction attrs generalizing p with
  | nil => exact ⟨rfl, p.log, rfl⟩
  | cons attr attrs ih =>
    obtain ⟨name, text⟩ := attr
    rw [bindAttrs, List.filterMap_cons, attrFaults, List.filter_cons]
    by_cases isBinding : Text.endsWith name providerKey = true
    · rw [if_pos isBinding, if_pos isBinding, List.filterMap_cons]
      obtain ⟨cause, q, failed, nothing, here, fault⟩ | ⟨intent, entry, q, done, bound, here, none⟩ :=
        parseAttr_cases events e name text context
      · obtain ⟨counted, later⟩ := ih (p := q) (by rw [here.services, events])
        rw [here.settings] at counted later
        rw [EStateM.run, failed, nothing, fault]
        refine ⟨?_, here.trans later⟩
        simp only [counted]
        rfl
      · obtain ⟨counted, later⟩ := ih (p := q) (by rw [here.services, events])
        rw [here.settings] at counted later
        rw [EStateM.run, done, bound, none]
        refine ⟨?_, here.trans later⟩
        simp only [counted]
        rfl
    · rw [if_neg isBinding, if_neg isBinding, attrBound?_of_unmarked e isBinding text]
      exact ih events

/-- What the attributes of some elements register. -/
def markupBound (global context : Int) (labels : List Label) : List (Registration Setter) :=
  labels.flatMap fun label =>
    label.plainAttrs.filterMap (attrBound? global context ⟨label.index, label.name⟩)

/-- What is wrong with the attributes of some elements. -/
def markupFaults (global context : Int) (labels : List Label) : List PageError :=
  labels.flatMap fun label => attrFaults global context label.shown label.plainAttrs

theorem bindElements_outcome (events : p.services.events = true) (context : Int)
    (labels : List Label) :
    (bindElements context labels p).1 = (markupFaults p.settings.global context labels,
      (markupBound p.settings.global context labels).length) ∧
    Changed p ((markupBound p.settings.global context labels).map .registered)
      (bindElements context labels p).2 := by
  induction labels generalizing p with
  | nil => exact ⟨rfl, p.log, rfl⟩
  | cons label labels ih =>
    obtain ⟨counted, here⟩ := bindAttrs_outcome events ⟨label.index, label.name⟩ label.shown context
      label.plainAttrs
    obtain ⟨countedLater, later⟩ := ih (p := (bindAttrs ⟨label.index, label.name⟩ label.shown context
      label.plainAttrs p).2) (by rw [here.services, events])
    rw [here.settings] at countedLater later
    rw [markupBound, markupFaults, List.flatMap_cons, List.flatMap_cons, List.map_append,
      List.length_append]
    refine ⟨?_, here.trans later⟩
    rw [bindElements]
    simp only [counted, countedLater]
    rfl

theorem bindMarkup_outcome (events : p.services.events = true) (context : Int) :
    ∃ q, bindMarkup context p =
        raise (markupFaults p.settings.global context p.world.document.elements) q ∧
      Changed p ((markupBound p.settings.global context p.world.document.elements).map .registered) q ∧
      q.log.getLast? = some ⟨.debug, "Bound markup", [("bindings",
        .int (markupBound p.settings.global context p.world.document.elements).length)]⟩ := by
  let done := bindElements context p.world.document.elements p
  obtain ⟨counted, log, changed⟩ := bindElements_outcome events context p.world.document.elements
  let q : Page := { done.2 with
    log := done.2.log ++ [⟨.debug, "Bound markup", [("bindings", .int done.1.2)]⟩] }
  have bound : bindMarkup context p = raise done.1.1 q := rfl
  refine ⟨q, ?_, ⟨q.log, ?_⟩, ?_⟩
  · rw [bound, show done.1 = _ from counted]
  · simp only [q, done, changed]
  · simp [q, done, counted]

end PageBinding.Page
