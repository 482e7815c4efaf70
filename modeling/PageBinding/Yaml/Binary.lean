/-!
Bytes written as text: four characters stand for three bytes.
-/
namespace PageBinding.Yaml

def sextet? (c : Char) : Option Nat :=
  if 'A' ≤ c && c ≤ 'Z' then some (c.toNat - 'A'.toNat)
  else if 'a' ≤ c && c ≤ 'z' then some (c.toNat - 'a'.toNat + 26)
  else if '0' ≤ c && c ≤ '9' then some (c.toNat - '0'.toNat + 52)
  else if c = '+' then some 62
  else if c = '/' then some 63
  else none

def bytesOfGroup (count a b c d : Nat) : List UInt8 :=
  let n := ((a * 64 + b) * 64 + c) * 64 + d
  ([n / 65536, n / 256, n].take count).map Nat.toUInt8

def bytesOf? : List Char → Option (List UInt8)
  | [] => some []
  | [a, b, '=', '='] => do return bytesOfGroup 1 (← sextet? a) (← sextet? b) 0 0
  | [a, b, c, '='] => do return bytesOfGroup 2 (← sextet? a) (← sextet? b) (← sextet? c) 0
  | a :: b :: c :: d :: rest => do
      let first := bytesOfGroup 3 (← sextet? a) (← sextet? b) (← sextet? c) (← sextet? d)
      return first ++ (← bytesOf? rest)
  | _ => none

def binary? (s : String) : Option (List UInt8) :=
  bytesOf? (s.toList.filter fun c => c ≠ '\n' && c ≠ '\r')

def sextetChar (n : Nat) : Char :=
  if n < 26 then Char.ofNat ('A'.toNat + n)
  else if n < 52 then Char.ofNat ('a'.toNat + (n - 26))
  else if n < 62 then Char.ofNat ('0'.toNat + (n - 52))
  else if n = 62 then '+'
  else '/'

def charsOfBytes : List UInt8 → List Char
  | [] => []
  | [a] => group a 0 0 2 ++ ['=', '=']
  | [a, b] => group a b 0 3 ++ ['=']
  | a :: b :: c :: rest => group a b c 4 ++ charsOfBytes rest
where
  group (a b c : UInt8) (count : Nat) : List Char :=
    let n := (a.toNat * 256 + b.toNat) * 256 + c.toNat
    ([n / 262144, n / 4096 % 64, n / 64 % 64, n % 64].take count).map sextetChar

def binaryWidth : Nat := 70

def linesOf (width : Nat) (cs : List Char) : List Char :=
  (List.range ((cs.length + width - 1) / width)).flatMap fun i =>
    (cs.drop (i * width)).take width ++ ['\n']

def binaryText (bytes : List UInt8) : String :=
  let cs := charsOfBytes bytes
  String.ofList (if cs.length < binaryWidth then cs else linesOf binaryWidth cs)

end PageBinding.Yaml
