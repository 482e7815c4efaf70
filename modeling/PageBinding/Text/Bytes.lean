/-!
Bytes read as text. The bytes of a character are read as that character; any other byte stands for
itself.
-/
namespace PageBinding.Text

def replacement : Char := '\ufffd'

def charOfCode (n : Nat) : Char :=
  if n.isValidChar then Char.ofNat n else replacement

def encode (cs : List Char) : List UInt8 :=
  cs.flatMap String.utf8EncodeChar

def firstChar? (bytes : List UInt8) : Option Char :=
  (ByteArray.mk (bytes.take 4).toArray).utf8DecodeChar? 0

/-- The characters and the bytes that belong to none, in what is left after `skip` bytes. -/
def piecesAt (skip : Nat) : List UInt8 → List (Char ⊕ UInt8)
  | [] => []
  | b :: bytes =>
      match skip with
      | skip + 1 => piecesAt skip bytes
      | 0 =>
          match firstChar? (b :: bytes) with
          | some c => .inl c :: piecesAt (c.utf8Size - 1) bytes
          | none => .inr b :: piecesAt 0 bytes

def pieces (bytes : List UInt8) : List (Char ⊕ UInt8) :=
  piecesAt 0 bytes

def pieceBytes : Char ⊕ UInt8 → List UInt8
  | .inl c => String.utf8EncodeChar c
  | .inr b => [b]

def pieceChar : Char ⊕ UInt8 → Char
  | .inl c => c
  | .inr _ => replacement

def ofBytes (bytes : List UInt8) : String :=
  String.ofList ((pieces bytes).map pieceChar)

def ofBytes? (bytes : List UInt8) : Option String :=
  String.fromUTF8? ⟨bytes.toArray⟩

def toBytes (s : String) : List UInt8 :=
  encode s.toList

end PageBinding.Text
