/-!
White space in the sense of Unicode, and trimming it from the ends of a text.
-/
namespace PageBinding.Text

def isBlank (c : Char) : Bool :=
  c == ' ' || ('\t' ≤ c && c ≤ '\r') || c == '\u0085' || c == '\u00a0' || c == '\u1680' ||
  ('\u2000' ≤ c && c ≤ '\u200a') || c == '\u2028' || c == '\u2029' || c == '\u202f' ||
  c == '\u205f' || c == '\u3000'

def trimStartBy {α : Type} (drop : α → Bool) (cs : List α) : List α :=
  cs.dropWhile drop

def trimEndBy {α : Type} (drop : α → Bool) (cs : List α) : List α :=
  (cs.reverse.dropWhile drop).reverse

def trimBy {α : Type} (drop : α → Bool) (cs : List α) : List α :=
  trimEndBy drop (trimStartBy drop cs)

def trimBlank (cs : List Char) : List Char :=
  trimEndBy isBlank (trimStartBy isBlank cs)

def trim (s : String) : String :=
  String.ofList (trimBlank s.toList)

def words (cs : List Char) : List (List Char) :=
  go cs []
where
  go : List Char → List Char → List (List Char)
    | [], word => if word.isEmpty then [] else [word.reverse]
    | c :: cs, word =>
        if isBlank c then (if word.isEmpty then go cs [] else word.reverse :: go cs [])
        else go cs (c :: word)

end PageBinding.Text
