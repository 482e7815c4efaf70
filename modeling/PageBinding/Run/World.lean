import PageBinding.Document.Property
import PageBinding.Store.Basic

/-!
What programs read and change, and what they run with.
-/
namespace PageBinding

structure Event where
  type : String
  detail : Value
  path : List ElementRef
  deriving Inhabited

def Event.origin (e : Event) : Option ElementRef :=
  e.path.head?

/-- Everything that programs can read and change. Where an event is kept is not theirs to choose, but
can be read: an event inside another value is printed as its address. -/
structure World where
  store : Store
  document : Document
  events : Array Event
  addresses : Nat → Nat
  deriving Inhabited

namespace World

def empty : World := ⟨.empty, .empty, #[], fun _ => 0⟩

def event? (w : World) (ref : EventRef) : Option Event :=
  w.events[ref.index]?

def addEvent (w : World) (e : Event) : EventRef × World :=
  (⟨w.events.size⟩, { w with events := w.events.push e })

end World

structure Frame where
  event : Option EventRef
  element : Option ElementRef
  hasDocument : Bool
  hasData : Bool
  canceled : Bool
  bound : Int
  deriving Inhabited

inductive Local
  | value (v : Value)
  | unresolved (selector : RawText) (whole : Bool)
  deriving Inhabited

abbrev Locals := List (String × Local)

end PageBinding
