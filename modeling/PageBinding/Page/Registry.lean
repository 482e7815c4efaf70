import PageBinding.Run.Error

/-!
Registrations: what is to be done when an event reaches an element.
-/
namespace PageBinding

structure Registration (α : Type) where
  element : ElementRef
  event : String
  setter : α

structure Registry (α : Type) where
  entries : List (Registration α)

namespace Registry

variable {α σ ε : Type}

def empty : Registry α := ⟨[]⟩

def register (r : Registry α) (element : ElementRef) (event : String) (setter : α) : Registry α :=
  ⟨r.entries ++ [⟨element, event, setter⟩]⟩

def clear (r : Registry α) (element : ElementRef) : Registry α :=
  ⟨r.entries.filter fun e => e.element ≠ element⟩

def ofElement (r : Registry α) (element : ElementRef) : List (Registration α) :=
  r.entries.filter fun e => e.element = element

def size (r : Registry α) (element : ElementRef) : Nat :=
  (r.ofElement element).length

def setters (r : Registry α) (element : ElementRef) (event : String) : List α :=
  ((r.ofElement element).filter fun e => e.event = event).map Registration.setter

/-- Does one thing after the other, whether they fail or not, and collects the failures. What comes
after a thing that never comes back is not done. -/
def runAll (invoke : α → EStateM (Halt ε) σ Unit) : List α → σ → Except Stuck (List ε) × σ
  | [], s => (.ok [], s)
  | a :: rest, s =>
      match (invoke a).run s with
      | .ok _ s => runAll invoke rest s
      | .error (.failed e) s =>
          let later := runAll invoke rest s
          (later.1.map (e :: ·), later.2)
      | .error (.never why) s => (.error why, s)

end Registry

end PageBinding
