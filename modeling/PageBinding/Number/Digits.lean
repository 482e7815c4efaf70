import PageBinding.Number.Binary
import PageBinding.Text.Basic

/-!
The decimal digits of a floating-point number, in two ways: the fewest digits that identify the
number among those of its format, and a fixed count of places after the point.
-/
namespace PageBinding

/-- The number `0.d₁d₂d₃… * 10 ^ point`, digits most significant first. Zero has no digits. -/
structure Digits where
  digits : List Char
  point : Int
  deriving Repr, DecidableEq

namespace Digits

def ofNat (n : Nat) : List Char :=
  if n = 0 then [] else (Nat.repr n).toList

def trimmed (digits : List Char) : List Char :=
  (digits.reverse.dropWhile (· == '0')).reverse

/-- A fraction `num / den` compared with `n * 10 ^ k`: the two sides brought to whole numbers. -/
def scaled (k : Int) (n num den : Nat) : Nat × Nat :=
  if 0 ≤ k then (n * Nat.pow 10 k.toNat * den, num) else (n * den, num * Nat.pow 10 (-k).toNat)

/-- The reals nearer to a number than to its neighbours, as fractions over a common denominator;
the ends belong to it when the mantissa is even. -/
structure Interval where
  low : Nat
  value : Nat
  high : Nat
  denominator : Nat
  closed : Bool

def Interval.of (f : Binary.Format) (x : Binary) : Interval :=
  let narrow := x.mantissa = Nat.pow 2 f.fractionBits && x.exponent ≠ f.leastExponent
  -- quarters of the last place, so that both halfway points are whole
  let value := 4 * x.mantissa
  let low := if narrow then value - 1 else value - 2
  let high := value + 2
  let closed := x.mantissa % 2 = 0
  let e := x.exponent - 2
  if 0 ≤ e then
    let unit := Nat.pow 2 e.toNat
    ⟨low * unit, value * unit, high * unit, 1, closed⟩
  else ⟨low, value, high, Nat.pow 2 (-e).toNat, closed⟩

def Interval.holds (i : Interval) (k : Int) (n : Nat) : Bool :=
  let (a, low) := scaled k n i.low i.denominator
  let (b, high) := scaled k n i.high i.denominator
  if i.closed then low ≤ a && b ≤ high else low < a && b < high

/-- The least `k` with `value < 10 ^ k`, found from an estimate that is off by at most two. -/
def Interval.scale (i : Interval) : Int :=
  let bits : Int := (i.value.log2 : Int) - (i.denominator.log2 : Int)
  -- log₁₀ 2 lies between 0.30102 and 0.30103
  let estimate := Int.fdiv (bits * 30103) 100000 - 1
  let below (k : Int) : Bool := let (a, v) := scaled k 1 i.value i.denominator; decide (v < a)
  match (List.range 6).find? fun (j : Nat) => below (estimate + j) with
  | some j => estimate + j
  | none => estimate

/-- The best multiple of `10 ^ k` in the interval, if there is one: the nearer of the value's two
neighbours on that grid, and of two equally near the even one. -/
def Interval.nearest? (i : Interval) (k : Int) : Option Nat :=
  let (unit, value) := scaled k 1 i.value i.denominator
  let down := value / unit
  let up := down + 1
  match i.holds k down && down != 0, i.holds k up with
  | true, true =>
      let twice := 2 * (value % unit)
      if twice < unit then some down
      else if unit < twice then some up
      else if down % 2 = 0 then some down else some up
  | true, false => some down
  | false, true => some up
  | false, false => none

def shortest (f : Binary.Format) (x : Binary) : Digits :=
  if x.mantissa = 0 then ⟨[], 0⟩
  else
    let i := Interval.of f x
    let k := i.scale
    let found := (List.range 18).findSome? fun (n : Nat) =>
      (i.nearest? (k - (n + 1))).map fun m => (m, k - (n + 1))
    match found with
    | some (m, place) =>
        let digits := ofNat m
        ⟨trimmed digits, place + digits.length⟩
    | none => ⟨[], 0⟩

/-- All digits of a number down to `places` after the point, a half going to the even digit. -/
def rounded (places : Nat) (x : Binary) : Digits :=
  let n := x.mantissa * Nat.pow 10 places
  let m :=
    if 0 ≤ x.exponent then n * Nat.pow 2 x.exponent.toNat
    else Binary.roundDiv n (Nat.pow 2 (-x.exponent).toNat)
  let digits := ofNat m
  ⟨digits, digits.length - places⟩

end Digits

end PageBinding
