import PageBinding.Number.Digits

/-!
How numbers are written.

* `Number.general`: the fewest digits that identify the number, with an exponent when the number
  is below `10⁻⁴` or has more than six places before the point.
* `Number.plain`: the same digits, never with an exponent.
* `Number.fixed`: a given count of places after the point.
-/
namespace PageBinding

namespace Digits

def positional (d : Digits) (places : Nat) : List Char :=
  let whole :=
    if d.point ≤ 0 then ['0']
    else
      let n := d.point.toNat
      d.digits.take n ++ List.replicate (n - d.digits.length) '0'
  let digit (i : Nat) : Char :=
    let j := d.point + i
    if 0 ≤ j then (d.digits[j.toNat]?).getD '0' else '0'
  if places = 0 then whole
  else whole ++ '.' :: (List.range places).map digit

def scientific (d : Digits) : List Char :=
  let (first, rest) := match d.digits with
    | [] => ('0', [])
    | c :: cs => (c, cs)
  let exponent := if d.digits.isEmpty then 0 else d.point - 1
  let sign := if exponent < 0 then '-' else '+'
  let size := (Nat.repr exponent.natAbs).toList
  let size := if size.length < 2 then '0' :: size else size
  (first :: (if rest.isEmpty then [] else '.' :: rest)) ++ 'e' :: sign :: size

def places (d : Digits) : Nat :=
  ((d.digits.length : Int) - d.point).toNat

def general (d : Digits) : List Char :=
  let exponent := if d.digits.isEmpty then 0 else d.point - 1
  if exponent < -4 || 6 ≤ exponent then d.scientific else d.positional d.places

end Digits

namespace Number

structure Specials where
  nan : String
  infinity : String
  negativeInfinity : String

def specials : Specials := ⟨"NaN", "+Inf", "-Inf"⟩

def written (f : Binary.Format) (bits : Nat) (names : Specials)
    (body : Binary → List Char) : String :=
  match Binary.ofBits? f bits with
  | some x => String.ofList (if x.negative then '-' :: body x else body x)
  | none =>
      if bits % Nat.pow 2 f.fractionBits ≠ 0 then names.nan
      else if bits / Nat.pow 2 (f.fractionBits + f.exponentBits) % 2 = 1 then names.negativeInfinity
      else names.infinity

def general (x : Float) : String :=
  written .double x.toBits.toNat specials fun b => (Digits.shortest .double b).general

def generalSingle (x : Float32) : String :=
  written .single x.toBits.toNat specials fun b => (Digits.shortest .single b).general

def plain (x : Float) : String :=
  written .double x.toBits.toNat specials fun b =>
    let d := Digits.shortest .double b
    d.positional d.places

def fixed (places : Nat) (x : Float) : String :=
  written .double x.toBits.toNat specials fun b => (Digits.rounded places b).positional places

end Number

end PageBinding
