import PageBinding.Text.Basic
import PageBinding.Text.Bytes
import PageBinding.Text.Graphic

/-!
Texts as they are shown in messages: in double quotes, with everything that has no shape of its
own written as an escape.
-/
namespace PageBinding.Text

def shownChar (c : Char) : List Char :=
  if c = '"' || c = '\\' then ['\\', c]
  else if isGraphic c then [c]
  else if c = '\x07' then ['\\', 'a']
  else if c = '\x08' then ['\\', 'b']
  else if c = '\x0c' then ['\\', 'f']
  else if c = '\n' then ['\\', 'n']
  else if c = '\r' then ['\\', 'r']
  else if c = '\t' then ['\\', 't']
  else if c = '\x0b' then ['\\', 'v']
  else if c.toNat < 0x20 || c.toNat = 0x7f then '\\' :: 'x' :: hex 2 c.toNat
  else if c.toNat < 0x10000 then '\\' :: 'u' :: hex 4 c.toNat
  else '\\' :: 'U' :: hex 8 c.toNat

def shown (s : String) : String :=
  String.ofList ('"' :: (s.toList.flatMap shownChar ++ ['"']))

/-- Bytes in double quotes, as messages show them. Those that belong to no character are written by
their numbers. -/
def shownBytes (bytes : List UInt8) : String :=
  let piece (p : Char ⊕ UInt8) : List Char :=
    match p with
    | .inl c => shownChar c
    | .inr b => '\\' :: 'x' :: hex 2 b.toNat
  String.ofList ('"' :: ((pieces bytes).flatMap piece ++ ['"']))

def shownSingle (c : Char) : String :=
  if c = '\'' then "'\\''"
  else if c = '"' then "'\"'"
  else "'" ++ String.ofList (shownChar c) ++ "'"

def shownByte (c : Char) : String :=
  shownSingle (leadByte c)

def shownCodePoint (c : Char) : String :=
  let digits := hex (if c.toNat < 0x10000 then 4 else if c.toNat < 0x100000 then 5 else 6) c.toNat
  let code := String.ofList ('U' :: '+' :: digits.map Char.toUpper)
  if isGraphic c then code ++ String.ofList [' ', '\'', c, '\''] else code

end PageBinding.Text
