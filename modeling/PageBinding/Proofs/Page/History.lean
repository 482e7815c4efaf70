import PageBinding.Proofs.Page.Bound
import PageBinding.Proofs.Run.Isolation

/-!
Events on a page. Whatever was done on it before, an event on an element runs the programs that were
bound there for it since the element was last cleared, one after the other, unless one of them never
comes back.
-/
namespace PageBinding

/-- Runs programs one after the other, each in the world that the one before has left. A program that
fails leaves the world to the next one as it was. None is run after one that never comes back. -/
def Program.runInTurn (f : Frame) : List Program → World → Except Stuck (List RunError) × World
  | [], w => (.ok [], w)
  | p :: rest, w =>
      match p.run f w with
      | (.ok _, after) => runInTurn f rest after
      | (.error (.failed e), _) =>
          let later := runInTurn f rest w
          (later.1.map (e :: ·), later.2)
      | (.error (.never why), _) => (.error why, w)

theorem Binding.run_halted {global context : Int} {text : RawText} {p : Program}
    (built : (build global context text).result = .ok p) {f : Frame} {w after : World}
    {halt : Halt RunError} (halted : p.run f w = (.error halt, after)) : after = w := by
  obtain ⟨template, first, value, read, filled, isSome⟩ := build_ok built
  obtain ⟨later, -, inOrder, waiting, -⟩ := read.scopes
  have runs := run_cases inOrder.areNames waiting filled isSome f w
  rw [halted] at runs
  cases runs with
  | failed e => rfl
  | never why named evaluated aims endless => rfl

namespace Page

open Registry (Change)

/-! ## One event -/

/-- A registration of a compiled binding on the element that it is bound to. -/
def Sound (entry : Registration Setter) : Prop :=
  entry.setter.element = some entry.element ∧ ∃ global context text,
    (Binding.build global context text).result = .ok entry.setter.intent.program

/-- What a program runs with when an event happens on an element of a page. -/
def eventFrame (p : Page) (e : ElementRef) (event : EventRef) (canceled : Bool) (context : Int) :
    Frame where
  event := some event
  element := some e
  hasDocument := p.services.document
  hasData := p.services.data
  canceled
  bound := context

theorem invoke_eq {s : Setter} {e : ElementRef} (here : s.element = some e) (p : Page) (event : EventRef)
    (canceled : Bool) (context : Int) :
    (invoke s (some event) canceled context).run p =
      match s.intent.program.run (p.eventFrame e event canceled context) p.world with
      | (.ok _, world) => .ok () { p with world }
      | (.error (.failed cause), world) => .error (.failed (.run cause)) { p with world }
      | (.error (.never why), world) => .error (.never why) { p with world } := by
  rw [eventFrame, ← here]
  rfl

theorem runAll_eq (p : Page) (e : ElementRef) (event : EventRef) (canceled : Bool) (context : Int)
    {setters : List Setter} (sound : ∀ s ∈ setters, s.element = some e ∧ ∃ global context text,
      (Binding.build global context text).result = .ok s.intent.program) :
    Registry.runAll (fun s => invoke s (some event) canceled context) setters p =
      let ran := Program.runInTurn (p.eventFrame e event canceled context)
        (setters.map (·.intent.program)) p.world
      (ran.1.map (List.map .run), { p with world := ran.2 }) := by
  induction setters generalizing p with
  | nil => rfl
  | cons s rest ih =>
      obtain ⟨⟨here, _, _, _, built⟩, others⟩ := List.forall_mem_cons.1 sound
      rw [Registry.runAll, invoke_eq here, List.map_cons, Program.runInTurn]
      cases ran : s.intent.program.run (p.eventFrame e event canceled context) p.world with
      | mk outcome after =>
          cases outcome with
          | ok => exact ih { p with world := after } others
          | error halt =>
              -- a program that does not succeed has changed nothing, so the next one runs in the
              -- same world
              obtain rfl := Binding.run_halted built ran
              cases halt with
              | never why => rfl
              | failed cause =>
                  have later := ih p others
                  simp only [later]
                  cases (Program.runInTurn (p.eventFrame e event canceled context)
                    (rest.map (·.intent.program)) p.world).1 with
                  | error why => rfl
                  | ok causes => rfl

/-- How an event ends on a page once programs were run in turn for it. -/
def ended (type : String) (p : Page) : Except Stuck (List RunError) × World →
    EStateM.Result (Halt PageError) Page Unit
  | (.ok causes, world) =>
      returning (raise (causes.map fun cause => .at type (.run cause))) { p with world }
  | (.error why, world) => .error (.never why) { p with world }

theorem fired_eq {p : Page} {selector : RawText} {e : ElementRef}
    (found : element selector p = .ok e p) (type : String) (detail : Value) :
    let added := p.world.addEvent ⟨type, detail, [e]⟩
    ∃ log, fired selector type detail p = .ok (e, added.1) { p with world := added.2, log } := by
  intro added
  unfold fired
  rw [bind_of_ok found, get_bind]
  by_cases silent : p.registry.size e = 0
  · exact ⟨_, by rw [if_pos silent]; rfl⟩
  · exact ⟨p.log, by rw [if_neg silent]; rfl⟩

theorem fire_unfound {p : Page} {selector : RawText} {cause : PageError}
    (failed : element selector p = .error cause p) (type : String) (detail : Value) (canceled : Bool)
    (context : Int) : fire selector type detail canceled context p = .error (.failed cause) p := by
  have began : fired selector type detail p = .error cause p := bind_of_error failed _
  have returned : returning (fired selector type detail) p = .error (.failed cause) p := by
    rw [returning, began]
  exact bind_of_error returned _

/-- An event on an element runs in turn the programs that are registered there for it. -/
theorem fire_eq {p : Page} (sound : ∀ entry ∈ p.registry.entries, Sound entry) {selector : RawText}
    {e : ElementRef} (found : element selector p = .ok e p) (type : String)
    (detail : Value) (canceled : Bool) (context : Int) :
    let added := p.world.addEvent ⟨type, detail, [e]⟩
    let ran := Program.runInTurn (p.eventFrame e added.1 canceled context)
      ((p.registry.setters e type).map (·.intent.program)) added.2
    ∃ log, fire selector type detail canceled context p = ended type { p with log } ran := by
  intro added ran
  have soundHere : ∀ s ∈ p.registry.setters e type, s.element = some e ∧ ∃ global context text,
      (Binding.build global context text).result = .ok s.intent.program := by
    intro s mem
    obtain ⟨entry, isFor, rfl⟩ := List.mem_map.1 mem
    obtain ⟨onElement, -⟩ := List.mem_filter.1 isFor
    obtain ⟨inRegistry, isHere⟩ := List.mem_filter.1 onElement
    obtain ⟨bound, built⟩ := sound entry inRegistry
    exact ⟨bound.trans (congrArg some (of_decide_eq_true isHere)), built⟩
  obtain ⟨log, began⟩ := fired_eq found type detail
  have returned : returning (fired selector type detail) p =
      .ok (e, added.1) { p with world := added.2, log } := by
    rw [returning, began]
  refine ⟨log, (bind_of_ok returned _).trans ?_⟩
  show dispatchWith _ e type _ = _
  have called : Registry.runAll (fun s => invoke s (some added.1) canceled context)
      (p.registry.setters e type) { p with world := added.2, log } =
        (ran.1.map (List.map .run), { p with world := ran.2, log }) :=
    runAll_eq _ e added.1 canceled context soundHere
  unfold dispatchWith
  simp only [called]
  generalize ran = outcome
  obtain ⟨causes | causes, world⟩ := outcome
  · rfl
  · show returning (raise ((causes.map .run).map (.at type))) { p with world, log } = _
    rw [List.map_map]
    rfl

/-! ## Histories -/

/-- What can be done on a page. -/
inductive Action
  | bind (selector : RawText) (event : String) (text : RawText) (context : Int)
  | bindMarkup (context : Int)
  | clear (e : ElementRef)
  | fire (selector : RawText) (type : String) (detail : Value) (canceled : Bool) (context : Int)

namespace Action

def perform : Action → PageRun Unit
  | bind selector event text context => returning (Page.bind selector event text context)
  | bindMarkup context => returning (Page.bindMarkup context)
  | clear e => returning (Page.clear e)
  | fire selector type detail canceled context => Page.fire selector type detail canceled context

/-- The page that an action leaves, whether it fails or not, if it comes back. -/
def result (a : Action) (p : Page) : Except Stuck Page :=
  match a.perform.run p with
  | .ok _ q => .ok q
  | .error (.failed _) q => .ok q
  | .error (.never why) _ => .error why

/-- The bindings that an action makes: those whose texts compile, on the elements that are there. -/
def bound (p : Page) : Action → List (Registration Setter)
  | bind selector event text context =>
      match p.world.document.query selector with
      | .ok (some e) =>
          if event = "" then [] else (bound? p.settings.global context e event text).toList
      | _ => []
  | bindMarkup context => markupBound p.settings.global context p.world.document.elements
  | clear _ => []
  | fire .. => []

/-- What an action does to the registrations of a page. -/
def changes (p : Page) : Action → List (Change Setter)
  | clear e => [.cleared e]
  | a => (a.bound p).map .registered

end Action

/-- The page after a history that came back. -/
def after (p : Page) : List Action → Except Stuck Page
  | [] => .ok p
  | a :: rest =>
      match a.result p with
      | .ok q => q.after rest
      | .error why => .error why

def changes (p : Page) : List Action → List (Change Setter)
  | [] => []
  | a :: rest =>
      match a.result p with
      | .ok q => a.changes p ++ q.changes rest
      | .error _ => []

/-! ## What actions do to the registrations -/

section
variable {p : Page}

/-- Something other than an event always comes back. -/
theorem Action.result_of_returning {a : Action} {m : PageM Unit} (h : a.perform = returning m) {q : Page}
    (ran : m p = .ok () q ∨ ∃ e, m p = .error e q) : a.result p = .ok q := by
  rw [result, h, EStateM.run, returning]
  rcases ran with ran | ⟨e, ran⟩ <;> rw [ran]

theorem raise_same (errors : List PageError) (q : Page) :
    raise errors q = .ok () q ∨ ∃ e, raise errors q = .error e q := by
  unfold raise
  cases PageError.combine errors with
  | none => exact .inl rfl
  | some e => exact .inr ⟨e, rfl⟩

theorem Action.bound_bind (selector : RawText) (event : String) (text : RawText) (context : Int)
    {e : ElementRef} (found : p.world.document.query selector = .ok (some e)) :
    (Action.bind selector event text context).bound p =
      (attrBound? p.settings.global context e (event ++ providerKey, text)).toList := by
  rw [bound, found, attrBound?, boundEvent?_append]
  by_cases unnamed : event = ""
  · simp [unnamed]
  · simp [unnamed]

theorem Action.bound_bind_nothing (selector : RawText) (event : String) (text : RawText)
    (context : Int) (nothing : ∀ e, p.world.document.query selector ≠ .ok (some e)) :
    (Action.bind selector event text context).bound p = [] := by
  rw [bound]
  split
  · rename_i e found
    exact absurd found (nothing e)
  · rfl

/-- Binding fails and changes no more than the log, or it registers the one binding that it makes. -/
theorem bind_cases (events : p.services.events = true) (selector : RawText) (event : String)
    (text : RawText) (context : Int) :
    (∃ cause q, bind selector event text context p = .error cause q ∧
      (Action.bind selector event text context).bound p = [] ∧ Changed p [] q) ∨
    ∃ entry q, bind selector event text context p = .ok () q ∧
      (Action.bind selector event text context).bound p = [entry] ∧
      Changed p [.registered entry] q := by
  unfold bind
  obtain ⟨e, found, isHere⟩ | ⟨cause, nothing, failed⟩ := element_cases selector p
  · rw [bind_of_ok isHere, Action.bound_bind selector event text context found]
    obtain ⟨cause, q, failed, unbound, changed, -⟩ | ⟨intent, entry, q, done, bound, changed, -⟩ :=
      parseAttr_cases events e (event ++ providerKey) text context
    · exact .inl ⟨cause, q, bind_of_error failed _, by rw [unbound]; rfl, changed⟩
    · exact .inr ⟨entry, q, bind_of_ok done _, by rw [bound]; rfl, changed⟩
  · rw [bind_of_error failed, Action.bound_bind_nothing selector event text context nothing]
    exact .inl ⟨cause, p, rfl, rfl, p.log, rfl⟩

/-- An event that comes back leaves the registrations, the settings and the services. -/
theorem fire_result (sound : ∀ entry ∈ p.registry.entries, Sound entry) {selector : RawText}
    {type : String} {detail : Value} {canceled : Bool} {context : Int} {q : Page}
    (came : (Action.fire selector type detail canceled context).result p = .ok q) :
    ∃ world log, q = { p with world, log } := by
  have performed : (Action.fire selector type detail canceled context).perform.run p =
      fire selector type detail canceled context p := rfl
  unfold Action.result at came
  rw [performed] at came
  obtain ⟨e, -, isHere⟩ | ⟨cause, -, failed⟩ := element_cases selector p
  · obtain ⟨log, fired⟩ := fire_eq sound isHere type detail canceled context
    rw [fired] at came
    generalize Program.runInTurn _ _ _ = ran at came
    obtain ⟨why | causes, world⟩ := ran
    · cases came
    · refine ⟨world, log, ?_⟩
      unfold ended returning at came
      rcases raise_same (causes.map fun cause => .at type (.run cause)) { p with world, log } with
        raised | ⟨e, raised⟩
      · simp only [raised] at came
        cases came
        rfl
      · simp only [raised] at came
        cases came
        rfl
  · rw [fire_unfound failed] at came
    cases came
    exact ⟨p.world, p.log, rfl⟩

/-- An action that comes back changes the registrations as it should, and leaves the settings and the
services. -/
theorem result_changes (events : p.services.events = true)
    (sound : ∀ entry ∈ p.registry.entries, Sound entry) {a : Action} {q : Page}
    (came : a.result p = .ok q) :
    q.registry = (a.changes p).foldl Registry.apply p.registry ∧
      q.settings = p.settings ∧ q.services = p.services := by
  have changed {r : Page} (h : Changed p (a.changes p) r) (result : a.result p = .ok r) :
      q.registry = (a.changes p).foldl Registry.apply p.registry ∧ q.settings = p.settings ∧
        q.services = p.services := by
    cases result.symm.trans came
    obtain ⟨log, rfl⟩ := h
    exact ⟨rfl, rfl, rfl⟩
  cases a with
  | bind selector event text context =>
      have ofBound {entries : List (Registration Setter)}
          (bound : (Action.bind selector event text context).bound p = entries) :
          (Action.bind selector event text context).changes p = entries.map .registered :=
        congrArg (List.map Change.registered) bound
      obtain ⟨cause, r, failed, bound, here⟩ | ⟨entry, r, done, bound, here⟩ :=
        bind_cases events selector event text context
      · exact changed (by rwa [ofBound bound])
          (Action.result_of_returning rfl (.inr ⟨cause, failed⟩))
      · exact changed (by rwa [ofBound bound]) (Action.result_of_returning rfl (.inl done))
  | bindMarkup context =>
      obtain ⟨r, done, here, -⟩ := bindMarkup_outcome events context
      refine changed here (Action.result_of_returning rfl ?_)
      rw [done]
      exact raise_same _ r
  | clear e =>
      have cleared : clear e p = .ok () { p with registry := p.registry.clear e } :=
        congrArg (EStateM.Result.ok ()) (if_pos events)
      have result : (Action.clear e).result p = .ok { p with registry := p.registry.clear e } :=
        Action.result_of_returning rfl (.inl cleared)
      cases result.symm.trans came
      exact ⟨rfl, rfl, rfl⟩
  | fire selector type detail canceled context =>
      obtain ⟨world, log, rfl⟩ := fire_result sound came
      exact ⟨rfl, rfl, rfl⟩

/-! ## What is registered is sound -/

theorem sound_bound {global context : Int} {e : ElementRef} {event : String} {text : RawText}
    {entry : Registration Setter} (h : bound? global context e event text = some entry) :
    Sound entry := by
  unfold bound? at h
  split at h
  · rename_i program built
    cases h
    exact ⟨rfl, global, context, text, built⟩
  · cases h

theorem sound_attrBound {global context : Int} {e : ElementRef} {attr : String × RawText}
    {entry : Registration Setter} (h : attrBound? global context e attr = some entry) :
    Sound entry := by
  obtain ⟨event, -, bound⟩ := Option.bind_eq_some_iff.1 h
  exact sound_bound bound

theorem Action.sound_of_bound (a : Action) : ∀ entry ∈ a.bound p, Sound entry := by
  intro entry mem
  cases a with
  | bind selector event text context =>
      obtain ⟨e, found, -⟩ | ⟨cause, nothing, -⟩ := element_cases selector p
      · rw [bound_bind selector event text context found, Option.mem_toList] at mem
        exact sound_attrBound mem
      · rw [bound_bind_nothing selector event text context nothing] at mem
        cases mem
  | bindMarkup context =>
      obtain ⟨label, -, inLabel⟩ := List.mem_flatMap.1 mem
      obtain ⟨attr, -, bound⟩ := List.mem_filterMap.1 inLabel
      exact sound_attrBound bound
  | clear e => cases mem
  | fire selector type detail canceled context => cases mem

theorem sound_apply {r : Registry Setter} (sound : ∀ entry ∈ r.entries, Sound entry)
    {c : Change Setter} (added : ∀ entry, c = .registered entry → Sound entry) :
    ∀ entry ∈ (r.apply c).entries, Sound entry := by
  intro entry mem
  cases c with
  | registered new =>
      rcases List.mem_append.1 mem with old | last
      · exact sound entry old
      · rw [List.mem_singleton.1 last]
        exact added new rfl
  | cleared e => exact sound entry (List.mem_filter.1 mem).1

theorem sound_replay {r : Registry Setter} (sound : ∀ entry ∈ r.entries, Sound entry)
    {changes : List (Change Setter)} (added : ∀ entry, .registered entry ∈ changes → Sound entry) :
    ∀ entry ∈ (changes.foldl Registry.apply r).entries, Sound entry := by
  induction changes generalizing r with
  | nil => exact sound
  | cons c changes ih =>
      refine ih (sound_apply sound ?_) fun entry mem => added entry (List.mem_cons_of_mem c mem)
      rintro entry rfl
      exact added entry List.mem_cons_self

theorem Action.sound_of_changes (a : Action) :
    ∀ entry, .registered entry ∈ a.changes p → Sound entry := by
  intro entry mem
  cases a with
  | clear e => simp [changes] at mem
  | _ =>
      obtain ⟨entry', isBound, same⟩ := List.mem_map.1 mem
      cases same
      exact sound_of_bound _ entry isBound

theorem after_changes (events : p.services.events = true)
    (sound : ∀ entry ∈ p.registry.entries, Sound entry) {history : List Action} {q : Page}
    (came : p.after history = .ok q) :
    q.registry = (p.changes history).foldl Registry.apply p.registry ∧ q.services = p.services ∧
      ∀ entry ∈ q.registry.entries, Sound entry := by
  induction history generalizing p with
  | nil =>
      cases came
      exact ⟨rfl, rfl, sound⟩
  | cons a rest ih =>
      rw [after] at came
      rw [changes]
      cases next : a.result p with
      | error why =>
          rw [next] at came
          cases came
      | ok r =>
          rw [next] at came
          obtain ⟨registry, -, services⟩ := result_changes events sound next
          -- soundness is carried along: only of sound registrations is it known what an event changes
          have soundNext : ∀ entry ∈ r.registry.entries, Sound entry := by
            rw [registry]
            exact sound_replay sound a.sound_of_changes
          obtain ⟨laterRegistry, laterServices, laterSound⟩ := ih (services ▸ events) soundNext came
          refine ⟨?_, laterServices.trans services, laterSound⟩
          rw [laterRegistry, registry, List.foldl_append]

end

/-- Whatever was done on a page before and came back, an event on an element runs in turn, with the
context that it is given, the programs that were bound there for it since the element was last cleared:
all of them, or all up to one that never comes back, and then the event never comes back either. A
binding that fails leaves all but the log, and one is made exactly when binding succeeds. -/
theorem fire_runs_bound (world : World) (settings : Settings) (data document : Bool)
    {history : List Action} {p : Page}
    (came : (Page.new world settings ⟨data, true, document⟩).after history = .ok p) :
    let start := Page.new world settings ⟨data, true, document⟩
    (∀ selector e, p.world.document.query selector = .ok (some e) →
      ∀ type detail canceled context,
        let programs := (Registry.heldSince e type (start.changes history)).map (·.intent.program)
        let added := p.world.addEvent ⟨type, detail, [e]⟩
        let frame : Frame := {
          event := some added.1
          element := some e
          hasDocument := document
          hasData := data
          canceled
          bound := context }
        ∃ log, fire selector type detail canceled context p =
          match Program.runInTurn frame programs added.2 with
          | (.ok causes, world) =>
            returning (raise (causes.map fun cause => .at type (.run cause))) { p with world, log }
          | (.error why, world) => .error (.never why) { p with world, log }) ∧
    (∀ selector, (∀ e, p.world.document.query selector ≠ .ok (some e)) →
      ∀ type detail canceled context, ∃ cause,
        fire selector type detail canceled context p = .error (.failed cause) p) ∧
    ∀ selector event text context,
      ((∃ q, bind selector event text context p = .ok () q) ↔
        (Action.bind selector event text context).bound p ≠ []) ∧
      ∀ cause q, bind selector event text context p = .error cause q →
        q.registry = p.registry ∧ q.world = p.world := by
  intro start
  obtain ⟨registry, services, sound⟩ :
      p.registry = (start.changes history).foldl Registry.apply .empty ∧ p.services = start.services ∧
        ∀ entry ∈ p.registry.entries, Sound entry :=
    after_changes rfl (fun entry mem => by cases mem) came
  refine ⟨fun selector e found type detail canceled context => ?_,
    fun selector nothing type detail canceled context => ?_, fun selector event text context => ?_⟩
  · have frame (event : EventRef) : p.eventFrame e event canceled context =
        ⟨some event, some e, document, data, canceled, context⟩ := by
      unfold eventFrame
      rw [services]
      rfl
    have setters : p.registry.setters e type =
        Registry.heldSince e type (start.changes history) := by
      rw [registry, Registry.setters_replay]
    obtain ⟨log, fired⟩ := fire_eq sound (element_found found) type detail canceled context
    rw [frame, setters] at fired
    refine ⟨log, fired.trans ?_⟩
    unfold ended
    rfl
  · obtain ⟨e, found, -⟩ | ⟨cause, -, failed⟩ := element_cases selector p
    · exact absurd found (nothing e)
    · exact ⟨cause, fire_unfound failed type detail canceled context⟩
  · have events : p.services.events = true := by
      rw [services]
      rfl
    obtain ⟨cause, q, failed, bound, log, rfl⟩ | ⟨entry, q, done, bound, -⟩ :=
      bind_cases events selector event text context
    · rw [failed, bound]
      refine ⟨by simp, fun cause' q same => ?_⟩
      cases same
      exact ⟨rfl, rfl⟩
    · rw [done, bound]
      exact ⟨by simp, nofun⟩

/-- A paragraph on a page, and data. -/
def buttonWorld (store : Store) : World :=
  { World.empty with store, document := .ofNodes [.node ⟨1, .element, "p", "", [], ""⟩ []] 2 }

/-- A page that is as it was but for its registrations and its log. -/
def IsButton (store : Store) (p : Page) : Prop :=
  p.world = buttonWorld store ∧ p.settings = {} ∧ p.services = {}

/-- What binding a program to a click registers. -/
def clickBound (program : Program) : Registration Setter :=
  ⟨⟨1, "p"⟩, "click", ⟨⟨1, program⟩, some ⟨1, "p"⟩⟩⟩

section
variable {store : Store} {p : Page}

theorem IsButton.bind (h : IsButton store p) {text : RawText} {program : Program}
    (built : (Binding.build 0 1 text).result = .ok program) :
    ∃ q, (Action.bind "p" "click" text 1).result p = .ok q ∧ IsButton store q ∧
      (Action.bind "p" "click" text 1).changes p = [.registered (clickBound program)] := by
  obtain ⟨world, settings, services⟩ := h
  have bound : (Action.bind "p" "click" text 1).bound p = [clickBound program] := by
    have found : (buttonWorld store).document.query "p" = .ok (some ⟨1, "p"⟩) := rfl
    have global : p.settings.global = 0 := by rw [settings]
    rw [Action.bound, world, found, global]
    simp [bound?, built, clickBound]
  obtain ⟨cause, q, -, nothing, -⟩ | ⟨entry, q, done, -, log, rfl⟩ :=
    bind_cases (by rw [services]) "p" "click" text 1 (p := p)
  · rw [bound] at nothing
    cases nothing
  · exact ⟨_, Action.result_of_returning rfl (.inl done), ⟨world, settings, services⟩,
      congrArg (List.map Change.registered) bound⟩

theorem IsButton.clear (h : IsButton store p) (e : ElementRef) :
    ∃ q, (Action.clear e).result p = .ok q ∧ IsButton store q := by
  have cleared : Page.clear e p = .ok () { p with registry := p.registry.clear e } :=
    congrArg (EStateM.Result.ok ()) (if_pos (by rw [h.2.2]))
  exact ⟨_, Action.result_of_returning rfl (.inl cleared), h⟩

end

/-- A binding is made, cleared and made again, and after it another one. -/
def buttonHistory : List Action :=
  [.bind "p" "click" "x = $element" 1, .clear ⟨1, "p"⟩, .bind "p" "click" "x = $element" 1,
    .bind "p" "click" "x.k = true" 1]

theorem after_buttonHistory :
    let start := Page.new (buttonWorld .empty) {} {}
    ∃ p, start.after buttonHistory = .ok p ∧ IsButton .empty p ∧
      (Registry.heldSince ⟨1, "p"⟩ "click" (start.changes buttonHistory)).map (·.intent.program) =
        [storesElement, World.writesMember] := by
  intro start
  have first : IsButton .empty start := ⟨rfl, rfl, rfl⟩
  obtain ⟨p₁, came₁, second, changes₁⟩ := first.bind build_storesElement
  obtain ⟨p₂, came₂, third⟩ := second.clear ⟨1, "p"⟩
  obtain ⟨p₃, came₃, fourth, changes₃⟩ := third.bind build_storesElement
  obtain ⟨p₄, came₄, last, changes₄⟩ := fourth.bind World.build_writesMember
  refine ⟨p₄, ?_, last, ?_⟩
  · simp only [buttonHistory, after, came₁, came₂, came₃, came₄]
  · simp only [buttonHistory, changes, came₁, came₂, came₃, came₄, changes₁, changes₃, changes₄]
    rfl

/-- The first program stores an element where the second needs an object, so the second fails, and what
the first has stored stays. Both were bound with another context than the event is given. -/
theorem button_runs_bound :
    ∃ p, (Page.new (buttonWorld .empty) {} {}).after buttonHistory = .ok p ∧
      ∃ cause q, fire "p" "click" .null false 5 p = .error (.failed cause) q ∧
        q.world.store.read 5 "x" = .element ⟨1, "p"⟩ ∧ q.world.store.read 1 "x" = .null := by
  obtain ⟨p, came, ⟨world, -, -⟩, programs⟩ := after_buttonHistory
  have found : p.world.document.query "p" = .ok (some ⟨1, "p"⟩) := by
    rw [world]
    rfl
  obtain ⟨log, fired⟩ :=
    (fire_runs_bound (buttonWorld .empty) {} true true came).1 "p" _ found "click" .null false 5
  rw [programs, world] at fired
  exact ⟨p, came, _, _, fired, rfl, rfl⟩

/-- Data with an object that is inside itself. -/
def ringStore : Store :=
  ⟨⟨#[⟨[("o", .object ⟨1⟩)]⟩, ⟨[("me", .object ⟨1⟩)]⟩]⟩, [(1, ⟨0⟩)]⟩

/-- A program that writes such an object into the markup. -/
def writesRing : Program :=
  ⟨[], some (.setMember .element "id" (.get (.bound 1) "o"))⟩

/-- A program that writes a list with an element into the markup. -/
def writesPath : Program :=
  ⟨[], some (.setMember .element "id" (.call .event "composedPath" []))⟩

/-- A binding and another one after it. -/
def twoBound (text : String) : List Action :=
  [.bind "p" "click" text 1, .bind "p" "click" "x = $element" 1]

theorem fire_twoBound (store : Store) {text : String} {program : Program}
    (built : (Binding.build 0 1 text).result = .ok program) :
    let start := Page.new (buttonWorld store) {} {}
    let added := (buttonWorld store).addEvent ⟨"click", .null, [⟨1, "p"⟩]⟩
    let frame : Frame := ⟨some added.1, some ⟨1, "p"⟩, true, true, false, 1⟩
    ∃ p log, start.after (twoBound text) = .ok p ∧
      (Registry.heldSince ⟨1, "p"⟩ "click" (start.changes (twoBound text))).map (·.intent.program) =
        [program, storesElement] ∧
      fire "p" "click" .null false 1 p = ended "click" { p with log }
        (Program.runInTurn frame [program, storesElement] added.2) := by
  intro start added frame
  have first : IsButton store start := ⟨rfl, rfl, rfl⟩
  obtain ⟨p₁, came₁, second, changes₁⟩ := first.bind built
  obtain ⟨p₂, came₂, ⟨world, settings, services⟩, changes₂⟩ := second.bind build_storesElement
  have came : start.after (twoBound text) = .ok p₂ := by
    simp only [twoBound, after, came₁, came₂]
  have programs : (Registry.heldSince ⟨1, "p"⟩ "click" (start.changes (twoBound text))).map
      (·.intent.program) = [program, storesElement] := by
    simp only [twoBound, changes, came₁, came₂, changes₁, changes₂]
    rfl
  obtain ⟨registry, -, sound⟩ := after_changes rfl (fun entry mem => by cases mem) came
  have setters : (p₂.registry.setters ⟨1, "p"⟩ "click").map (·.intent.program) =
      [program, storesElement] := by
    rw [← programs, registry]
    exact congrArg _ (Registry.setters_replay _ _ _)
  have found : p₂.world.document.query "p" = .ok (some ⟨1, "p"⟩) := by
    rw [world]
    rfl
  have sameEvent : p₂.world.addEvent ⟨"click", .null, [⟨1, "p"⟩]⟩ = added := by rw [world]
  have sameFrame : p₂.eventFrame ⟨1, "p"⟩ added.1 false 1 = frame := by rw [eventFrame, services]
  obtain ⟨log, fired⟩ := fire_eq sound (element_found found) "click" .null false 1
  rw [sameEvent, setters, sameFrame] at fired
  exact ⟨p₂, log, came, programs, fired⟩

/-- A program that writes a list with an element, or an object that is inside itself, into the markup
keeps the one that is bound after it from being run. -/
theorem stuck_program_stops_later :
    let start (store : Store) := Page.new (buttonWorld store) {} {}
    let bound (store : Store) (text : String) :=
      (Registry.heldSince ⟨1, "p"⟩ "click" ((start store).changes (twoBound text))).map
        (·.intent.program)
    (∃ p q, let text := "prop($element, 'id') = $event.composedPath()"
      (start .empty).after (twoBound text) = .ok p ∧
        bound .empty text = [writesPath, storesElement] ∧
        fire "p" "click" .null false 1 p = .error (.never .locked) q ∧
        q.world.store.read 1 "x" = .null) ∧
    ∃ p q, let text := "prop($element, 'id') = o"
      (start ringStore).after (twoBound text) = .ok p ∧
        bound ringStore text = [writesRing, storesElement] ∧
        fire "p" "click" .null false 1 p = .error (.never .overflow) q ∧
        q.world.store.read 1 "x" = .null := by
  intro start bound
  have scannedPath : Token.scan "prop($element, 'id') = $event.composedPath()" =
      [⟨.identifier, 0, "prop"⟩, ⟨.leftParen, 4, "("⟩, ⟨.identifier, 5, "$element"⟩,
        ⟨.comma, 13, ","⟩, ⟨.string, 15, "'id'"⟩, ⟨.rightParen, 19, ")"⟩, ⟨.assign, 21, "="⟩,
        ⟨.identifier, 23, "$event"⟩, ⟨.dot, 29, "."⟩, ⟨.identifier, 30, "composedPath"⟩,
        ⟨.leftParen, 42, "("⟩, ⟨.rightParen, 43, ")"⟩, .eofAt 44] := by
    decide +kernel
  have builtPath : (Binding.build 0 1 "prop($element, 'id') = $event.composedPath()").result =
      .ok writesPath := by
    unfold Binding.build Assignment.ofText
    rw [Token.scanRaw, scannedPath]
    rfl
  have scannedRing : Token.scan "prop($element, 'id') = o" =
      [⟨.identifier, 0, "prop"⟩, ⟨.leftParen, 4, "("⟩, ⟨.identifier, 5, "$element"⟩,
        ⟨.comma, 13, ","⟩, ⟨.string, 15, "'id'"⟩, ⟨.rightParen, 19, ")"⟩, ⟨.assign, 21, "="⟩,
        ⟨.identifier, 23, "o"⟩, .eofAt 24] := by
    decide +kernel
  have builtRing : (Binding.build 0 1 "prop($element, 'id') = o").result = .ok writesRing := by
    unfold Binding.build Assignment.ofText
    rw [Token.scanRaw, scannedRing]
    rfl
  obtain ⟨p, log, came, programs, fired⟩ := fire_twoBound .empty builtPath
  obtain ⟨p', log', came', programs', fired'⟩ := fire_twoBound ringStore builtRing
  exact ⟨⟨p, _, came, programs, fired, rfl⟩, p', _, came', programs', fired', rfl⟩

end Page

end PageBinding
