import PageBinding.Text.Quoted

/-!
Texts as they are kept. Most are characters; one that came as bytes may have some that belong to no
character, and these are kept too.
-/
namespace PageBinding

inductive RawText
  | chars (s : String)
  | bytes (bs : List UInt8) (stray : Text.ofBytes? bs = none)
  deriving DecidableEq, Repr, Inhabited

namespace RawText

instance : Coe String RawText := ⟨chars⟩

def ofBytes (bs : List UInt8) : RawText :=
  match stray : Text.ofBytes? bs with
  | some s => chars s
  | none => bytes bs stray

def toBytes : RawText → List UInt8
  | chars s => Text.toBytes s
  | bytes bs _ => bs

/-- The characters of a text, with a mark for each byte that belongs to none. -/
def toText : RawText → String
  | chars s => s
  | bytes bs _ => Text.ofBytes bs

def size : RawText → Nat
  | chars s => s.utf8ByteSize
  | bytes bs _ => bs.length

def append : RawText → RawText → RawText
  | chars s, chars t => chars (s ++ t)
  | r, r' => ofBytes (r.toBytes ++ r'.toBytes)

instance : Append RawText := ⟨append⟩

/-- The part of a text from byte `start` up to byte `stop`. -/
def slice (start stop : Nat) : RawText → RawText
  | chars s => chars (String.ofList (Text.sliceBytes start stop s.toList))
  | bytes bs _ => ofBytes ((bs.take stop).drop start)

/-- The bytes of a text, each taken for the character that has its number. -/
def byteChars (r : RawText) : List Char :=
  r.toBytes.map Char.ofUInt8

def ofByteChars (cs : List Char) : RawText :=
  ofBytes (cs.map Char.toUInt8)

/-- In double quotes, as messages show it. -/
def shown : RawText → String
  | chars s => Text.shown s
  | bytes bs _ => Text.shownBytes bs

end RawText

end PageBinding
