import PageBinding.Text.Basic
import PageBinding.Text.Bytes

/-!
Cutting a text at another text, and putting a text in the place of another.
-/
namespace PageBinding.Text

section

variable {α : Type} [BEq α]

def prepend (c : α) : List (List α) → List (List α)
  | [] => [[c]]
  | part :: parts => (c :: part) :: parts

/-- The parts between the occurrences of a separator, which is not empty, in what is left after
`skip` items. Occurrences do not overlap. -/
def cutAt (separator : List α) (skip : Nat) : List α → List (List α)
  | [] => [[]]
  | c :: cs =>
      match skip with
      | skip + 1 => cutAt separator skip cs
      | 0 =>
          if separator.isPrefixOf (c :: cs) then [] :: cutAt separator (separator.length - 1) cs
          else prepend c (cutAt separator 0 cs)

/-- A text with every occurrence of `old`, which is not empty, replaced, in what is left after
`skip` items. -/
def replaceAt (old new : List α) (skip : Nat) : List α → List α
  | [] => []
  | c :: cs =>
      match skip with
      | skip + 1 => replaceAt old new skip cs
      | 0 =>
          if old.isPrefixOf (c :: cs) then new ++ replaceAt old new (old.length - 1) cs
          else c :: replaceAt old new 0 cs

def replaceFirst (old new : List α) : List α → List α
  | [] => if old.isEmpty then new else []
  | c :: cs =>
      if old.isPrefixOf (c :: cs) then new ++ (c :: cs).drop old.length
      else c :: replaceFirst old new cs

end

/-- The parts of a text between the occurrences of a separator. An empty separator gives the single
characters. -/
def cut (separator text : List UInt8) : List (List UInt8) :=
  if separator.isEmpty then (pieces text).map pieceBytes else cutAt separator 0 text

/-- A text with every occurrence of `old` replaced. The empty text occurs before every character and
at the end. -/
def replaceAll (old new text : List UInt8) : List UInt8 :=
  if old.isEmpty then (pieces text).flatMap (fun piece => new ++ pieceBytes piece) ++ new
  else replaceAt old new 0 text

end PageBinding.Text
