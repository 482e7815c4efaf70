import PageBinding.Number.Reading

/-!
Integers read from text.

After an optional sign, `0x`, `0o` and `0b` mark sixteen, eight and two as the base, and so does a
leading zero for eight. A single underscore may stand between two digits or after the mark.
-/
namespace PageBinding.Number

open Text

def digitValue? (c : Char) : Option Nat :=
  let c := asciiLower c
  if isAsciiDigit c then some (c.toNat - '0'.toNat)
  else if 'a' ≤ c && c ≤ 'z' then some (c.toNat - 'a'.toNat + 10)
  else none

/-- The value of digits after others of value `n`; what does not fit in 64 bits is too large. -/
def digitsFrom (base : Nat) : Nat → List Char → Except ReadError Nat
  | n, [] => .ok n
  | n, c :: cs =>
      if c = '_' then digitsFrom base n cs
      else match digitValue? c with
        | none => .error .malformed
        | some d =>
            if base ≤ d then .error .malformed
            else if 0x10000000000000000 ≤ n * base + d then .error .tooLarge
            else digitsFrom base (n * base + d) cs

/-- The base that a text is written in, the digits after the mark of the base, and whether there
is a mark that an underscore may follow. -/
def baseOf (cs : List Char) : Nat × List Char × Bool :=
  match cs with
  | '0' :: mark :: c :: rest =>
      let digits := c :: rest
      if asciiLower mark = 'b' then (2, digits, true)
      else if asciiLower mark = 'o' then (8, digits, true)
      else if asciiLower mark = 'x' then (16, digits, true)
      else (8, mark :: digits, false)
  | '0' :: digits => (8, digits, false)
  | digits => (10, digits, false)

def readNat (cs : List Char) : Except ReadError Nat :=
  if cs.isEmpty then .error .malformed
  else
    let written := baseOf cs
    match digitsFrom written.1 0 written.2.1 with
    | .error e => .error e
    | .ok n =>
        let start := if written.2.2 then Neighbour.digit else .none
        let checked := if written.2.2 then written.2.1 else cs
        if underscoresOk (written.1 = 16) start checked then .ok n else .error .malformed

def readNatIn (base : Nat) (cs : List Char) : Except ReadError Nat :=
  if cs.isEmpty || cs.contains '_' then .error .malformed else digitsFrom base 0 cs

def readSigned (size : List Char → Except ReadError Nat) (cs : List Char) :
    Except ReadError Int64 :=
  let signed := match cs with
    | '+' :: rest => (false, rest)
    | '-' :: rest => (true, rest)
    | rest => (false, rest)
  match size signed.2 with
  | .error e => .error e
  | .ok n =>
      if signed.1 then
        if n ≤ 0x8000000000000000 then .ok (Int64.ofInt (-n)) else .error .tooLarge
      else if n < 0x8000000000000000 then .ok (Int64.ofInt n)
      else .error .tooLarge

def readInt (cs : List Char) : Except ReadError Int64 :=
  readSigned readNat cs

def readIntIn (base : Nat) (cs : List Char) : Except ReadError Int64 :=
  readSigned (readNatIn base) cs

def readUnsigned (cs : List Char) : Except ReadError UInt64 :=
  match readNat cs with
  | .error e => .error e
  | .ok n => .ok (UInt64.ofNat n)

end PageBinding.Number
