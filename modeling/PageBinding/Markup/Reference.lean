import PageBinding.Markup.Entity

/-!
Character references in texts and attribute values.
-/
namespace PageBinding.Markup

open Text

def controlReplacements : List Nat :=
  [0x20ac, 0x81, 0x201a, 0x192, 0x201e, 0x2026, 0x2020, 0x2021, 0x2c6, 0x2030, 0x160, 0x2039,
    0x152, 0x8d, 0x17d, 0x8f, 0x90, 0x2018, 0x2019, 0x201c, 0x201d, 0x2022, 0x2013, 0x2014, 0x2dc,
    0x2122, 0x161, 0x203a, 0x153, 0x9d, 0x17e, 0x178]

def referencedChar (n : Int32) : Char :=
  let n := n.toInt
  if 0x80 ≤ n && n ≤ 0x9f then
    Char.ofNat ((controlReplacements[(n - 0x80).toNat]?).getD 0xfffd)
  else if n ≤ 0 then '\ufffd'
  else if n.toNat.isValidChar then Char.ofNat n.toNat
  else '\ufffd'

def wrappedValue (base : Int32) (digits : List Char) : Int32 :=
  digits.foldl (fun n c => base * n + Int32.ofNat ((hexValue? c).getD 0)) 0

def numericReference (cs : List Char) : Option (Char × List Char) :=
  let (hexadecimal, digits) := match cs with
    | 'x' :: rest => (true, rest)
    | 'X' :: rest => (true, rest)
    | _ => (false, cs)
  let isDigit (c : Char) : Bool := if hexadecimal then (hexValue? c).isSome else isAsciiDigit c
  let number := digits.takeWhile isDigit
  let rest := digits.drop number.length
  let (closed, rest) := match rest with
    | ';' :: rest => (1, rest)
    | rest => (0, rest)
  -- a single digit counts only with what follows it
  let consumed := 2 + (if hexadecimal then 1 else 0) + number.length + closed
  if byteLength (cs.take 2) < 2 || consumed ≤ 3 then none
  else some (referencedChar (wrappedValue (if hexadecimal then 16 else 10) number), rest)

def bareEntity (name : List Char) : (length : Nat) → Option (String × Nat)
  | 0 => none
  | 1 => none
  | length + 2 =>
      match entity? (name.take (length + 2)) with
      | some s => some (s, length + 2)
      | none => bareEntity name (length + 1)

/-- A reference after its ampersand: the text it stands for and what follows it. In an attribute
a name without a semicolon is no reference before an equals sign. -/
def reference (inAttr : Bool) (cs : List Char) : Option (String × List Char) :=
  match cs with
  | '#' :: rest => (numericReference rest).map fun (c, rest) => (String.ofList [c], rest)
  | cs =>
      let letters := cs.takeWhile Char.isAlphanum
      let rest := cs.drop letters.length
      let (name, rest) := match rest with
        | ';' :: rest => (letters ++ [';'], rest)
        | rest => (letters, rest)
      if name.isEmpty then none
      else if inAttr && name.getLast? ≠ some ';' && rest.head? = some '=' then none
      else match entity? name with
        | some s => some (s, rest)
        | none =>
            if inAttr then none
            else (bareEntity name (min (name.length - 1) longestBareEntity)).map fun (s, n) =>
              (s, cs.drop n)

def unescapeWithin (inAttr : Bool) : (fuel : Nat) → List Char → List Char
  | 0, cs => cs
  | _ + 1, [] => []
  | fuel + 1, c :: cs =>
      if c = '&' then
        match reference inAttr cs with
        | some (s, rest) => s.toList ++ unescapeWithin inAttr fuel rest
        | none => c :: unescapeWithin inAttr fuel cs
      else c :: unescapeWithin inAttr fuel cs

def unescape (inAttr : Bool) (cs : List Char) : List Char :=
  unescapeWithin inAttr cs.length cs

end PageBinding.Markup
