import PageBinding.Text.Raw

/-!
String literals.

`quote` writes a text as a double-quoted literal on one line; `unquote` reads the literals that
binding texts contain, in any of the three kinds of quotes.
-/
namespace PageBinding.Literal

open Text

/-! ## Writing -/

def escape (c : Char) : List Char :=
  if c = '"' then ['\\', '"']
  else if c = '\\' then ['\\', '\\']
  else if c = '\n' then ['\\', 'n']
  else if c = '\r' then ['\\', 'r']
  else if c = '\t' then ['\\', 't']
  else if c = '\u2028' || c = '\u2029' || c.toNat < 0x20 || c.toNat = 0x7f then
    '\\' :: 'u' :: hex 4 c.toNat
  else [c]

def encode (cs : List Char) : List Char :=
  cs.flatMap escape

def quoteChars (cs : List Char) : List Char :=
  '"' :: (encode cs ++ ['"'])

def quote (s : String) : String :=
  String.ofList (quoteChars s.toList)

/-- A literal has characters only: it has a mark for each byte of the text that belongs to none. -/
def quoteRaw (r : RawText) : String :=
  quote r.toText

/-! ## Reading -/

inductive UnquoteError
  | badQuoting
  | badEscape
  | badCode (introducer : Char)
  deriving DecidableEq, Repr

def UnquoteError.message : UnquoteError → String
  | badQuoting => "bad quoting"
  | badEscape => "bad escape"
  | badCode c => "bad \\" ++ String.ofList [c] ++ " escape"

def simpleEscape (c : Char) : Char :=
  match c with
  | 'n' => '\n'
  | 't' => '\t'
  | 'r' => '\r'
  | 'b' => '\x08'
  | 'f' => '\x0c'
  | 'v' => '\x0b'
  | '0' => '\x00'
  | c => c

/-- The character with a given code; a code that is no character stands for the replacement
character. -/
def charOfCode (n : Nat) : Char :=
  if n.isValidChar then Char.ofNat n else '\ufffd'

def code? (digits : List Char) : Option Nat :=
  digits.foldl (fun n c => do return 16 * (← n) + (← hexValue? c)) (some 0)

def decode : List Char → Except UnquoteError (List Char)
  | [] => .ok []
  | '\\' :: [] => .error .badEscape
  | '\\' :: 'x' :: a :: b :: cs =>
      match code? [a, b] with
      | some n => return charOfCode n :: (← decode cs)
      | none => .error (.badCode 'x')
  | '\\' :: 'u' :: a :: b :: c :: d :: cs =>
      match code? [a, b, c, d] with
      | some n => return charOfCode n :: (← decode cs)
      | none => .error (.badCode 'u')
  | '\\' :: c :: cs =>
      if c = 'x' || c = 'u' then .error (.badCode c)
      else return simpleEscape c :: (← decode cs)
  | c :: cs => return c :: (← decode cs)

def unquoteChars : List Char → Except UnquoteError (List Char)
  | [] => .error .badQuoting
  | [_] => .error .badQuoting
  | _ :: c :: cs => decode (c :: cs).dropLast

def unquote (s : String) : Except UnquoteError String :=
  (unquoteChars s.toList).map String.ofList

/-! Inside a literal, bytes that belong to no character are no part of any escape's digits, and stand
for themselves also after a backslash. -/

def decodePieces : List (Char ⊕ UInt8) → Except UnquoteError (List (Char ⊕ UInt8))
  | [] => .ok []
  | .inl '\\' :: [] => .error .badEscape
  | .inl '\\' :: .inl 'x' :: a :: b :: ps =>
      match code? [pieceChar a, pieceChar b] with
      | some n => return .inl (charOfCode n) :: (← decodePieces ps)
      | none => .error (.badCode 'x')
  | .inl '\\' :: .inl 'u' :: a :: b :: c :: d :: ps =>
      match code? [pieceChar a, pieceChar b, pieceChar c, pieceChar d] with
      | some n => return .inl (charOfCode n) :: (← decodePieces ps)
      | none => .error (.badCode 'u')
  | .inl '\\' :: .inl c :: ps =>
      if c = 'x' || c = 'u' then .error (.badCode c)
      else return .inl (simpleEscape c) :: (← decodePieces ps)
  | .inl '\\' :: .inr b :: ps => return .inr b :: (← decodePieces ps)
  | p :: ps => return p :: (← decodePieces ps)

def unquotePieces : List (Char ⊕ UInt8) → Except UnquoteError (List (Char ⊕ UInt8))
  | [] => .error .badQuoting
  | [_] => .error .badQuoting
  | _ :: p :: ps => decodePieces (p :: ps).dropLast

def unquoteRaw : RawText → Except UnquoteError RawText
  | .chars s => (unquote s).map .chars
  | .bytes bs _ => (unquotePieces (pieces bs)).map fun ps => .ofBytes (ps.flatMap pieceBytes)

end PageBinding.Literal
