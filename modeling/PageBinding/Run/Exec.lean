import PageBinding.Run.Eval

/-!
Running programs.
-/
namespace PageBinding

structure Running where
  world : World
  locals : Locals

abbrev Run := EStateM (Halt RunError) Running

namespace World

def setProperty (w : World) (e : ElementRef) (name : String) (x : Value) : Except Stuck World :=
  if name ∈ markupProperties then
    (w.printed x).map fun text =>
      { w with document := w.document.setReflected e name (.ofBytes text) }
  else .ok { w with document := w.document.remember e name x }

def setMember (w : World) (v : Value) (name : String) (x : Value) : Except (Halt RunError) World :=
  match v with
  | .null => .error (.failed (.cannotSet v.toText name))
  | .undefined => .error (.failed (.cannotSet v.toText name))
  | .object ref => .ok { w with store.heap := w.store.heap.setMember ref name x }
  | .element e =>
      if name = "tagName" then .error (.failed (.readOnly name "element"))
      else (w.setProperty e name x).mapError .never
  | .event _ => .error (.failed (.readOnly name "event"))
  | v => .error (.failed (.cannotCreate name v.toText))

def find (w : World) (f : Frame) (selector : RawText) (whole : Bool) :
    Except RunError (Option ElementRef) :=
  let found : Except RunError (Except QueryError (Option ElementRef)) :=
    if whole then
      if f.hasDocument then .ok (w.document.query selector) else .error (.notDefined "document")
    else
      match f.element with
      | some e => .ok (w.document.queryFrom e selector)
      | none => .error (.cannotRead "undefined" "querySelector")
  match found with
  | .error e => .error e
  | .ok (.error cause) => .error (.query cause)
  | .ok (.ok e) => .ok e

end World

namespace Run

def eval (f : Frame) (x : Expr) : Run Value := fun s =>
  match x.eval s.world f s.locals with
  | .ok v => .ok v s
  | .error e => .error (.failed e) s

def name (name : String) (x : Local) : Run Unit :=
  modify fun s => { s with locals := (name, x) :: s.locals }

def setData (f : Frame) (scope : Scope) (path : String) (v : Value) : Run Unit := fun s =>
  match (Store.assign f.canceled (scope.resolve f.bound) path v).run s.world.store with
  | .ok _ store => .ok () { s with world.store := store }
  | .error cause store => .error (.failed (.writing path cause)) { s with world.store := store }

def setAttr (e : ElementRef) (name : String) (value : RawText) : Run Unit :=
  modify fun s => { s with world.document := s.world.document.setAttr e name value }

def lift {α : Type} (x : Except RunError α) : Run α := fun s =>
  match x with
  | .ok a => .ok a s
  | .error e => .error (.failed e) s

def setMember (target : Value) (name : String) (v : Value) : Run Unit := fun s =>
  match s.world.setMember target name v with
  | .ok world => .ok () { s with world }
  | .error halt => .error halt s

end Run

open Run in
def Stmt.exec (f : Frame) : Stmt → Run Unit
  | lookup name selector whole => do
      match ← lift ((← get).world.find f selector whole) with
      | some e => Run.name name (.value (.element e))
      | none => Run.name name (.unresolved selector whole)
  | declare name value => do
      let v ← eval f value
      Run.name name (.value v)
  | setProperty scope path value => do
      let v ← eval f value
      if !f.hasData then throw (.failed (.notDefined "data store"))
      setData f scope path v
  | setAttr x name value => do
      let target ← eval f x
      let e ← lift (target.asElement "setAttribute")
      let v ← eval f value
      Run.setAttr e name v.toRaw
  | setMember x name value => do
      let target ← eval f x
      let v ← eval f value
      Run.setMember target name v

namespace Program

def execAll (f : Frame) : List Stmt → Run Unit
  | [] => return
  | s :: rest => do
      s.exec f
      execAll f rest

def exec (f : Frame) (p : Program) : Run Unit :=
  execAll f p.statements

def run (f : Frame) (p : Program) (w : World) : Except (Halt RunError) Unit × World :=
  match (p.exec f).run ⟨w, []⟩ with
  | .ok _ s => (.ok (), s.world)
  | .error halt s => (.error halt, s.world)

end Program

end PageBinding
