import PageBinding.Text.Category

/-!
Which characters are letters and which are decimal digits.

ASCII characters are decided by comparison; all others by the general categories L
(letters) and Nd (decimal digits).
-/
namespace PageBinding.Text

def isLetter (c : Char) : Bool :=
  if c.toNat < 0x80 then ('a' ≤ c && c ≤ 'z') || ('A' ≤ c && c ≤ 'Z')
  else Category.letters.any (·.has c.toNat)

def isAsciiDigit (c : Char) : Bool :=
  '0' ≤ c && c ≤ '9'

def isDigit (c : Char) : Bool :=
  if c.toNat < 0x80 then isAsciiDigit c else Category.decimalDigits.has c.toNat

end PageBinding.Text
