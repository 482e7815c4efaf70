import PageBinding.Number.Reading
import PageBinding.Text.Quoted

/-!
How messages say that a text is not a number.
-/
namespace PageBinding.Number

def ReadError.wording (reader text : String) (e : ReadError) : String :=
  let cause := match e with
    | .malformed => "invalid syntax"
    | .tooLarge => "value out of range"
  "strconv." ++ reader ++ ": parsing " ++ Text.shown text ++ ": " ++ cause

end PageBinding.Number
