import PageBinding.Text.Letter

/-!
Which characters are shown as themselves in a quoted message: letters, marks, numbers,
punctuation and symbols, and the ASCII blank.
-/
namespace PageBinding.Text

def isGraphic (c : Char) : Bool :=
  if c.toNat < 0x80 then ' ' ≤ c && c ≤ '~'
  else (Category.letters ++ Category.signs).any (·.has c.toNat)

end PageBinding.Text
