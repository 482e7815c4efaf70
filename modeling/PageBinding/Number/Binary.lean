/-!
Floating-point numbers as exact fractions: a finite number is a whole number times a power of two.

`Binary.ofFloat?` and `Binary.ofFloat32?` take a number apart by its bits; `Binary.toFloat` puts
one together, rounding to the nearest number and to the even one of two that are equally near.
Everything that needs more than the arithmetic of floats is computed here on whole numbers:
cutting off the fraction, the remainder of a division, widening from single precision.
-/
namespace PageBinding

structure Binary where
  negative : Bool
  mantissa : Nat
  exponent : Int
  deriving Repr

namespace Binary

structure Format where
  fractionBits : Nat
  exponentBits : Nat

def Format.double : Format := ⟨52, 11⟩

def Format.single : Format := ⟨23, 8⟩

def Format.leastExponent (f : Format) : Int :=
  2 - Int.pow 2 (f.exponentBits - 1) - f.fractionBits

def ofBits? (f : Format) (bits : Nat) : Option Binary :=
  let fraction := bits % Nat.pow 2 f.fractionBits
  let field := bits / Nat.pow 2 f.fractionBits % Nat.pow 2 f.exponentBits
  let negative := bits / Nat.pow 2 (f.fractionBits + f.exponentBits) % 2 == 1
  if field = Nat.pow 2 f.exponentBits - 1 then none
  else if field = 0 then some ⟨negative, fraction, f.leastExponent⟩
  else some ⟨negative, fraction + Nat.pow 2 f.fractionBits, f.leastExponent + (field - 1)⟩

def ofFloat? (x : Float) : Option Binary :=
  ofBits? .double x.toBits.toNat

def ofFloat32? (x : Float32) : Option Binary :=
  ofBits? .single x.toBits.toNat

def roundDiv (n d : Nat) : Nat :=
  let q := n / d
  let twice := 2 * (n % d)
  if twice < d then q
  else if d < twice then q + 1
  else if q % 2 = 0 then q else q + 1

def toBits (f : Format) (x : Binary) : Nat :=
  let sign := if x.negative then Nat.pow 2 (f.fractionBits + f.exponentBits) else 0
  if x.mantissa = 0 then sign
  else
    let length : Int := x.mantissa.log2 + 1
    let place := max (x.exponent + length - (f.fractionBits + 1)) f.leastExponent
    let rounded :=
      if place ≤ x.exponent then x.mantissa * Nat.pow 2 (x.exponent - place).toNat
      else roundDiv x.mantissa (Nat.pow 2 (place - x.exponent).toNat)
    let carried := rounded = Nat.pow 2 (f.fractionBits + 1)
    let place := if carried then place + 1 else place
    let rounded := if carried then Nat.pow 2 f.fractionBits else rounded
    if rounded < Nat.pow 2 f.fractionBits then sign + rounded
    else
      let field := (place - f.leastExponent + 1).toNat
      let unit := Nat.pow 2 f.fractionBits
      let last := Nat.pow 2 f.exponentBits - 1
      if last ≤ field then sign + last * unit else sign + field * unit + (rounded - unit)

def toFloat (x : Binary) : Float :=
  Float.ofBits (toBits .double x).toUInt64

def truncate (x : Binary) : Int :=
  let magnitude :=
    if 0 ≤ x.exponent then x.mantissa * Nat.pow 2 x.exponent.toNat
    else x.mantissa / Nat.pow 2 (-x.exponent).toNat
  if x.negative then -(magnitude : Int) else magnitude

end Binary

namespace Number

def infinity : Float := Float.ofBits 0x7ff0000000000000

def negativeInfinity : Float := Float.ofBits 0xfff0000000000000

def nan : Float := Float.ofBits 0x7ff8000000000001

def truncate (x : Float) : Float :=
  match Binary.ofFloat? x with
  | none => x
  | some b =>
      if 0 ≤ b.exponent then x
      else Binary.toFloat ⟨b.negative, b.mantissa / Nat.pow 2 (-b.exponent).toNat, 0⟩

def toInt? (x : Float) : Option Int :=
  (Binary.ofFloat? x).map Binary.truncate

/-- The remainder of a division that is cut off towards zero; it has the sign of the dividend. -/
def remainder (x y : Float) : Float :=
  match Binary.ofFloat? x, Binary.ofFloat? y with
  | some a, some b =>
      if b.mantissa = 0 then nan
      else
        let place := min a.exponent b.exponent
        let m := a.mantissa * Nat.pow 2 (a.exponent - place).toNat
        let n := b.mantissa * Nat.pow 2 (b.exponent - place).toNat
        Binary.toFloat ⟨a.negative, m % n, place⟩
  | some _, none => if y.isNaN then nan else x
  | none, _ => nan

def ofSingle (x : Float32) : Float :=
  match Binary.ofFloat32? x with
  | some b => b.toFloat
  | none =>
      if x.isNaN then nan
      else if x < 0 then negativeInfinity else infinity

end Number

end PageBinding
