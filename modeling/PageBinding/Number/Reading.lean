import PageBinding.Number.Binary
import PageBinding.Text.Basic
import PageBinding.Text.Letter

/-!
Numbers read from text.

A number is written in decimal, with an optional point and an optional exponent, or in
hexadecimal after `0x`, where an exponent of two after `p` is required. A single underscore may
stand between two digits or after `0x`. Infinity and "no number" have names, in any case.
-/
namespace PageBinding.Number

open Text

inductive ReadError
  | malformed
  | tooLarge
  deriving DecidableEq, Repr

def asciiLower (c : Char) : Char :=
  if 'A' ≤ c && c ≤ 'Z' then Char.ofNat (c.toNat + 32) else c

inductive Neighbour
  | none | digit | underscore | other
  deriving DecidableEq

def underscoresOk (hexadecimal : Bool) : Neighbour → List Char → Bool
  | last, [] => last != .underscore
  | last, c :: cs =>
      if isAsciiDigit c || (hexadecimal && ('a' ≤ asciiLower c && asciiLower c ≤ 'f')) then
        underscoresOk hexadecimal .digit cs
      else if c = '_' then last == .digit && underscoresOk hexadecimal .underscore cs
      else last != .underscore && underscoresOk hexadecimal .other cs

/-- The digits before and after the point, and what follows them; `none` without a digit. -/
def mantissa? (isDigit : Char → Bool) (cs : List Char) :
    Option (List Char × List Char × List Char) :=
  let run (cs : List Char) := (cs.takeWhile fun c => isDigit c || c == '_')
  let whole := run cs
  let rest := cs.drop whole.length
  let (fraction, rest) := match rest with
    | '.' :: rest => let fraction := run rest; (fraction, rest.drop fraction.length)
    | rest => ([], rest)
  let whole := whole.filter (· != '_')
  let fraction := fraction.filter (· != '_')
  if whole.isEmpty && fraction.isEmpty then none else some (whole, fraction, rest)

def exponent? (cs : List Char) : Option Int :=
  let (negative, digits) := match cs with
    | '+' :: digits => (false, digits)
    | '-' :: digits => (true, digits)
    | digits => (false, digits)
  match digits with
  | [] => none
  | first :: _ =>
      if !isAsciiDigit first || !digits.all (fun c => isAsciiDigit c || c == '_') then none
      else
        let size := (decimalValue (digits.filter (· != '_')) : Int)
        some (if negative then -size else size)

def ofDecimal (n : Nat) (exponent : Int) : Float :=
  if n = 0 then 0.0
  else
    let length : Int := (Nat.repr n).length
    if length + exponent > 400 then infinity
    else if length + exponent < -400 then 0.0
    else if 0 ≤ exponent then Float.ofScientific n false exponent.toNat
    else Float.ofScientific n true (-exponent).toNat

def hexadecimalValue (digits : List Char) : Nat :=
  digits.foldl (fun n c => 16 * n + (hexValue? c).getD 0) 0

def magnitude? (cs : List Char) : Option Float :=
  match cs with
  | '0' :: x :: rest =>
      if asciiLower x = 'x' && !rest.isEmpty then do
        let (whole, fraction, rest) ← mantissa? (fun c => (hexValue? c).isSome) rest
        match rest with
        | p :: digits =>
            if asciiLower p = 'p' && underscoresOk true .digit (cs.drop 2) then do
              let e ← exponent? digits
              let n := hexadecimalValue (whole ++ fraction)
              let e := e - 4 * fraction.length
              if n = 0 then some 0.0
              else if n.log2 + e > 1100 then some infinity
              else if n.log2 + e < -1200 then some 0.0
              else some (Binary.toFloat ⟨false, n, e⟩)
            else none
        | [] => none
      else decimal cs
  | _ => decimal cs
where
  decimal (cs : List Char) : Option Float := do
    let (whole, fraction, rest) ← mantissa? isAsciiDigit cs
    if !underscoresOk false .none cs then none
    else
      let e ← match rest with
        | [] => some 0
        | mark :: digits => if asciiLower mark = 'e' then exponent? digits else none
      some (ofDecimal (decimalValue (whole ++ fraction)) (e - fraction.length))

def named? (cs : List Char) : Option Float :=
  let (sign, rest) := match cs with
    | '+' :: rest => (some false, rest)
    | '-' :: rest => (some true, rest)
    | rest => (none, rest)
  let word := String.ofList (rest.map asciiLower)
  if word = "inf" || word = "infinity" then
    some (if sign = some true then negativeInfinity else infinity)
  else if word = "nan" && sign = none then some nan
  else none

def read (cs : List Char) : Except ReadError Float :=
  match named? cs with
  | some x => .ok x
  | none =>
      let (negative, rest) := match cs with
        | '+' :: rest => (false, rest)
        | '-' :: rest => (true, rest)
        | rest => (false, rest)
      match magnitude? rest with
      | none => .error .malformed
      | some x => if x == infinity then .error .tooLarge else .ok (if negative then -x else x)

end PageBinding.Number
