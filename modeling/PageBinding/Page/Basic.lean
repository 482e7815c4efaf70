import PageBinding.Binding.Build
import PageBinding.Log.Entry
import PageBinding.Page.Registry
import PageBinding.Run.Exec
import PageBinding.Settings.Basic

/-!
Pages: a document with its data, and the bindings registered on its elements.
-/
namespace PageBinding

structure Intent where
  context : Int
  program : Program

def Intent.source (intent : Intent) : String :=
  intent.program.source

structure Setter where
  intent : Intent
  element : Option ElementRef

structure Services where
  data : Bool := true
  events : Bool := true
  document : Bool := true

structure Page where
  world : World
  registry : Registry Setter
  services : Services
  settings : Settings
  log : List Log.Entry

def providerKey : String := ".setvalue"

inductive PageError
  | binding (cause : BindingError)
  | run (cause : RunError)
  | query (cause : QueryError)
  | noMatch (selector : RawText)
  | notBinding (attr : String)
  | noSetter (element : String)
  | at (place : String) (cause : PageError)
  | many (causes : List PageError)
  deriving Inhabited

namespace PageError

mutual

def message : PageError → String
  | binding cause => cause.message
  | run cause => cause.message
  | query cause => cause.message
  | noMatch selector => "no element matches " ++ selector.shown
  | notBinding attr => "attribute " ++ Text.shown attr ++ " is not a " ++ providerKey ++ " binding"
  | noSetter element => "no setter bound on " ++ element
  | .at place cause => place ++ ": " ++ message cause
  | many causes => Text.joinStrings "; " (messages causes)

def messages : List PageError → List String
  | [] => []
  | e :: es => message e :: messages es

end

def combine : List PageError → Option PageError
  | [] => none
  | [e] => some e
  | es => some (many es)

end PageError

abbrev PageM := EStateM PageError Page

/-- Something done on a page that runs programs, and so may never come back. -/
abbrev PageRun := EStateM (Halt PageError) Page

namespace Page

def new (world : World) (settings : Settings) (services : Services) : Page :=
  ⟨world, .empty, services, settings, []⟩

def note (level : Log.Level) (message : String) (fields : List (String × Log.FieldValue)) :
    PageM Unit :=
  modify fun p => { p with log := p.log ++ [⟨level, message, fields⟩] }

def raise (errors : List PageError) : PageM Unit :=
  match PageError.combine errors with
  | none => return
  | some e => throw e

/-- What always comes back, among what may not. -/
def returning {α : Type} (m : PageM α) : PageRun α := fun p =>
  match m p with
  | .ok a q => .ok a q
  | .error e q => .error (.failed e) q

/-! ## Compiling -/

def generate (text : RawText) (context : Int) : PageM Intent := do
  let page ← get
  let compiled := Binding.build page.settings.global context text
  for offset in compiled.warnings do
    note .warn "Global accessor has no property path"
      [("provider", .text providerKey), ("expression", .text text.toText), ("offset", .int offset)]
  match compiled.result with
  | .error e => throw (.binding e)
  | .ok program =>
      let intent : Intent := ⟨context, program⟩
      if page.settings.debug "intent" then
        note .debug "Compiled binding"
          [("provider", .text providerKey), ("expression", .text text.toText), ("context", .int context),
            ("source", .text intent.source)]
      return intent

def parse (text : RawText) (context : Int) : PageM Intent := do
  match Assignment.ofText text with
  | .error e => throw (.binding e)
  | .ok _ => generate text context

def boundEvent? (attr : String) : Option String :=
  match Text.dropEnd? providerKey.toList attr.toList with
  | none => none
  | some [] => none
  | some event => some (String.ofList event)

def parseAttr (element : ElementRef) (name : String) (value : RawText) (context : Int) :
    PageM Intent := do
  match boundEvent? name with
  | none => throw (.notBinding name)
  | some event =>
      let intent ← parse value context
      if (← get).services.events then
        modify fun p => { p with registry := p.registry.register element event ⟨intent, element⟩ }
      return intent

/-! ## Running -/

def invoke (setter : Setter) (event : Option EventRef) (canceled : Bool) (bound : Int) :
    PageRun Unit := fun p =>
  let frame : Frame := {
    event
    element := setter.element
    hasDocument := p.services.document
    hasData := p.services.data
    canceled
    bound }
  match setter.intent.program.run frame p.world with
  | (.ok _, world) => .ok () { p with world }
  | (.error (.failed e), world) => .error (.failed (.run e)) { p with world }
  | (.error (.never why), world) => .error (.never why) { p with world }

def element (selector : RawText) : PageM ElementRef := do
  match (← get).world.document.query selector with
  | .error e => throw (.query e)
  | .ok none => throw (.noMatch selector)
  | .ok (some e) => return e

/-- Compiles and registers a binding for an event on the first element that a selector matches. -/
def bind (selector : RawText) (event : String) (text : RawText) (context : Int) : PageM Unit := do
  let e ← element selector
  let _ ← parseAttr e (event ++ providerKey) text context

/-- Registers the bindings among the attributes of an element: the failures, and how many were
registered. -/
def bindAttrs (e : ElementRef) (shown : String) (context : Int) :
    List (String × RawText) → Page → (List PageError × Nat) × Page
  | [], p => (([], 0), p)
  | (name, value) :: attrs, p =>
      if Text.endsWith name providerKey then
        match (parseAttr e name value context).run p with
        | .ok _ p =>
            let later := bindAttrs e shown context attrs p
            ((later.1.1, later.1.2 + 1), later.2)
        | .error cause p =>
            let later := bindAttrs e shown context attrs p
            ((.at (shown ++ " " ++ name) cause :: later.1.1, later.1.2), later.2)
      else bindAttrs e shown context attrs p

def bindElements (context : Int) : List Label → Page → (List PageError × Nat) × Page
  | [], p => (([], 0), p)
  | e :: es, p =>
      let here := bindAttrs ⟨e.index, e.name⟩ e.shown context e.plainAttrs p
      let later := bindElements context es here.2
      ((here.1.1 ++ later.1.1, here.1.2 + later.1.2), later.2)

def bindMarkup (context : Int) : PageM Unit := do
  let p ← get
  let done := bindElements context p.world.document.elements p
  set done.2
  note .debug "Bound markup" [("bindings", .int done.1.2)]
  raise done.1.1

/-- Does for everything that is registered for a type of event on an element what `act` says, in order.
What is registered at the beginning counts, whatever is registered or cleared meanwhile. -/
def dispatchWith (act : Setter → PageRun Unit) (e : ElementRef) (type : String) : PageRun Unit :=
  fun p =>
    match Registry.runAll act (p.registry.setters e type) p with
    | (.ok errors, q) => returning (raise (errors.map (.at type))) q
    | (.error why, q) => .error (.never why) q

def dispatch (e : ElementRef) (event : EventRef) (type : String) (canceled : Bool) (context : Int) :
    PageRun Unit :=
  dispatchWith (fun s => invoke s (some event) canceled context) e type

/-- The element an event is fired at, and the event, as they are before anything is dispatched. -/
def fired (selector : RawText) (type : String) (detail : Value) :
    PageM (ElementRef × EventRef) := do
  let e ← element selector
  if (← get).registry.size e = 0 then
    note .warn "No bindings on element" [("selector", .text selector.toText)]
  let event ← modifyGet fun p =>
    let added := p.world.addEvent ⟨type, detail, [e]⟩
    (added.1, { p with world := added.2 })
  return (e, event)

def fire (selector : RawText) (type : String) (detail : Value) (canceled : Bool) (context : Int) :
    PageRun Unit := do
  let (e, event) ← returning (fired selector type detail)
  dispatch e event type canceled context

def onEvent (element : Option ElementRef) (event : Option EventRef) (setter : Option Setter)
    (canceled : Bool) (context : Int) : PageRun Unit :=
  match setter with
  | some s => invoke s event canceled context
  | none =>
      throw (.failed (.noSetter ((element.map fun e => Text.lower e.tagName).getD "<nil>")))

def clear (e : ElementRef) : PageM Unit :=
  modify fun p => if p.services.events then { p with registry := p.registry.clear e } else p

end Page

end PageBinding
