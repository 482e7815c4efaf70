import PageBinding.Program.Basic
import PageBinding.Run.Error
import PageBinding.Run.World

/-!
The values of expressions. Evaluation changes nothing.
-/
namespace PageBinding

namespace World

/-! ## Members -/

def eventMember? (e : Event) (name : String) : Option Value :=
  if name = "type" then some (.string e.type)
  else if name = "detail" then some e.detail
  else if name = "target" then some ((e.origin.map Value.element).getD .null)
  else none

def member? (w : World) (v : Value) (name : String) : Option Value :=
  match v.inCharacters with
  | .string s => if name = "length" then some (.ofNat s.length) else none
  | .array items => if name = "length" then some (.ofNat items.length) else none
  | .object ref => w.store.heap.member? ref name
  | .element e => w.document.property? e name
  | .event ref => (w.event? ref).bind fun e => eventMember? e name
  | _ => none

def getMember (w : World) (v : Value) (name : String) : Except RunError Value :=
  if v.isNullish then .error (.cannotRead v.toText name)
  else .ok ((w.member? v name).getD .undefined)

def getIndex (w : World) (v i : Value) : Except RunError Value :=
  match v.inCharacters with
  | .array items => .ok (((i.position? items.length).bind fun n => items[n]?).getD .undefined)
  | .string s =>
      match i.position? s.length with
      | some n => .ok (.ofChars (s.toList[n]?).toList)
      | none => .ok .undefined
  | v =>
      if v.isNullish then .error (.cannotRead v.toText i.toRaw)
      else .ok ((w.member? v i.toText).getD .undefined)

/-! ## Methods -/

def elementMethod (w : World) (e : ElementRef) (name : String) (args : List Value) :
    Except RunError Value :=
  let first := (Value.argument args 0).toText
  match name with
  | "getAttribute" => .ok (((w.document.attr? e first).map Value.ofRaw).getD .null)
  | "hasAttribute" => .ok (.bool (w.document.attr? e first).isSome)
  | "querySelector" =>
      match w.document.queryFrom e (Value.argument args 0).toRaw with
      | .ok found => .ok ((found.map Value.element).getD .null)
      | .error cause => .error (.query cause)
  | _ => .error (.notAFunction "element" name)

def callMethod (w : World) (v : Value) (name : String) (args : List Value) :
    Except RunError Value :=
  let missing : Except RunError Value := .error (.notAFunction v.kind name)
  match v.inCharacters with
  | .null => .error (.cannotRead v.toText name)
  | .undefined => .error (.cannotRead v.toText name)
  | .string _ => ((Value.textMethod? name v args).map .ok).getD missing
  | .bool b => if name = "toString" then .ok (.string (Value.boolText b)) else missing
  | .array items => ((Value.arrayMethod? name items args).map .ok).getD missing
  | .element e => w.elementMethod e name args
  | .event ref =>
      if name = "composedPath" then
        .ok (.array (((w.event? ref).map Event.path).getD [] |>.map Value.element))
      else missing
  | v =>
      if !v.isNumber then missing
      else if name = "toString" then .ok (.string (Value.number v.toNumber).toText)
      else if name = "toFixed" then
        match Value.toFixed v.toNumber (Value.argument args 0) with
        | .ok s => .ok s
        | .error cause => .error (.argument cause)
      else missing

/-! ## Data -/

def getData (w : World) (f : Frame) (scope : Scope) (path : String) : Except RunError Value :=
  if !f.hasData then .error (.notDefined "data store")
  else
    match w.store.fetch f.canceled (scope.resolve f.bound) path with
    | .ok v => .ok v
    | .error cause => .error (.reading path cause)

end World

def Locals.get (locals : Locals) (name : String) : Except RunError Value :=
  match List.lookup name locals with
  | some (.value v) => .ok v
  | some (.unresolved selector whole) => .error (.noElement selector whole)
  | none => .error (.notDefined name)

def Value.asElement (v : Value) (method : String) : Except RunError ElementRef :=
  match v with
  | .element e => .ok e
  | v =>
      if v.isNullish then .error (.cannotRead v.toText method)
      else .error (.notAnElement v.toText)

namespace Expr

def evalTarget (w : World) (f : Frame) : Except RunError Value :=
  match f.event with
  | none => .error (.cannotRead "undefined" "composedPath")
  | some ref => .ok ((((w.event? ref).bind Event.origin).map Value.element).getD .undefined)

def applied (result : Except OperatorError Value) : Except RunError Value :=
  match result with
  | .ok v => .ok v
  | .error cause => .error (.operator cause)

mutual

def eval (w : World) (f : Frame) (locals : Locals) : Expr → Except RunError Value
  | lit _ value => .ok value
  | event => .ok ((f.event.map Value.event).getD .undefined)
  | target => evalTarget w f
  | element => .ok ((f.element.map Value.element).getD .undefined)
  | var name => locals.get name
  | get scope path => w.getData f scope path
  | attr x name => do
      let v ← eval w f locals x
      let e ← v.asElement "getAttribute"
      return ((w.document.attr? e name).map Value.ofRaw).getD .null
  | member x name => do
      let v ← eval w f locals x
      w.getMember v name
  | index x i => do
      let v ← eval w f locals x
      let i ← eval w f locals i
      w.getIndex v i
  | call x method args => do
      let v ← eval w f locals x
      let vs ← evalAll w f locals args
      w.callMethod v method vs
  | unary op x => do
      let v ← eval w f locals x
      applied (Value.unary op v)
  | binary op l r => do
      let a ← eval w f locals l
      if op = .and then
        if a.truthy then eval w f locals r else return a
      else if op = .or then
        if a.truthy then return a else eval w f locals r
      else
        let b ← eval w f locals r
        applied (Value.binary op a b)
  | cond c t e => do
      let v ← eval w f locals c
      if v.truthy then eval w f locals t else eval w f locals e
  | paren x => eval w f locals x
  | placeholder => .error .unfilled

def evalAll (w : World) (f : Frame) (locals : Locals) : List Expr → Except RunError (List Value)
  | [] => .ok []
  | x :: xs => do
      let v ← eval w f locals x
      let vs ← evalAll w f locals xs
      return v :: vs

end

end Expr

end PageBinding
