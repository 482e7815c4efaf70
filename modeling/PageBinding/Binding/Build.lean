import PageBinding.Binding.Parser
import PageBinding.Binding.Split

/-!
Compiling bindings.
-/
namespace PageBinding.Binding

structure Compiled where
  result : Except BindingError Program
  /-- Where global data was addressed without a path; there may be such places before an error. -/
  warnings : List Nat

/-- Both sides of a binding, then the assignment. The statements of the target come first. -/
def program (text : RawText) (global context : Int) (a : Assignment) : Parse Program := do
  let template ← target ⟨text, context, global, Side.ofTokens a.target, a.sign⟩
  modify fun p => { p with rest := a.source }
  let value ← source ⟨text, context, global, Side.ofTokens a.source, a.stop⟩
  match template.fill? value with
  | some assign => return ⟨(← get).setup, some assign⟩
  | none => throw ⟨a.sign, .noPlaceholder⟩

def build (global context : Int) (text : RawText) : Compiled :=
  match Assignment.ofText text with
  | .error e => ⟨.error e, []⟩
  | .ok a =>
      match (program text global context a).run ⟨a.target, [], []⟩ with
      | .ok p progress => ⟨.ok p, progress.warnings⟩
      | .error fault progress => ⟨.error ⟨text, fault⟩, progress.warnings⟩

end PageBinding.Binding
