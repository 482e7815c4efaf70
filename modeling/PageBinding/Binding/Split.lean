import PageBinding.Binding.Fault
import PageBinding.Text.Blank

/-!
Cutting a binding at its equals sign.
-/
namespace PageBinding

structure Assignment where
  target : List Token
  sign : Nat
  source : List Token
  stop : Nat
  deriving Repr

namespace Assignment

def divide : List Token → Option (List Token × Token × List Token)
  | [] => none
  | t :: rest =>
      if t.kind = .assign then some ([], t, rest)
      else (divide rest).map fun d => (t :: d.1, d.2)

def ofTokens (length : Nat) (tokens : List Token) : Except Fault Assignment :=
  let last := tokens.getLast?.getD (.eofAt 0)
  if last.kind = .error then .error ⟨last.offset, .lexical last.text⟩
  else
    match divide tokens.dropLast with
    | none => .error ⟨length, .assignMissing⟩
    | some (target, sign, source) =>
        if target.isEmpty then .error ⟨sign.offset, .targetMissing⟩
        else if source.isEmpty then .error ⟨sign.offset, .valueMissing⟩
        else .ok ⟨target, sign.offset, source, last.offset⟩

def ofText (text : RawText) : Except BindingError Assignment :=
  match ofTokens text.size (Token.scanRaw text) with
  | .ok a => .ok a
  | .error fault => .error ⟨text, fault⟩

end Assignment

namespace Binding

def split (text : String) : Except BindingError (String × String) :=
  match Assignment.ofText text with
  | .error e => .error e
  | .ok a =>
      let target := Text.takeBytes a.sign text.toList
      let source := Text.dropBytes (a.sign + 1) text.toList
      .ok (String.ofList (Text.trimBlank target), String.ofList (Text.trimBlank source))

end Binding

end PageBinding
