import PageBinding.Pattern.Basic

/-!
Whether a pattern matches somewhere in a text. A text is read once, from left to right; what is kept
is what may still be to come of the matches that have begun.
-/
namespace PageBinding

def Anchor.isWordChar (c : Char) : Bool :=
  c.isAlphanum || c == '_'

/-- Whether the position between two characters, or an end of the text, meets a condition. -/
def Anchor.holds (before after : Option Char) : Anchor → Bool
  | textStart => before.isNone
  | textEnd => after.isNone
  | lineStart => before.all (· == '\n')
  | lineEnd => after.all (· == '\n')
  | wordEdge => before.any isWordChar != after.any isWordChar
  | noWordEdge => before.any isWordChar == after.any isWordChar

namespace Pattern

def matchesEmpty (before after : Option Char) : Pattern → Bool
  | empty => true
  | one _ => false
  | anchor a => a.holds before after
  | seq p q => matchesEmpty before after p && matchesEmpty before after q
  | alt p q => matchesEmpty before after p || matchesEmpty before after q
  | repeated least _ p => least == 0 || matchesEmpty before after p
  | group p => matchesEmpty before after p

def andThen (p q : Pattern) : Pattern :=
  if p = empty then q else seq p q

def residues (before : Option Char) (c : Char) : Pattern → List Pattern
  | empty => []
  | one set => if set.has c then [empty] else []
  | anchor _ => []
  | seq p q =>
      (residues before c p).map (·.andThen q) ++
        if matchesEmpty before (some c) p then residues before c q else []
  | alt p q => residues before c p ++ residues before c q
  | repeated least most p =>
      if most = some 0 then []
      else
        -- Where `p` matches the empty text, all the repetitions that are due can be spent here.
        let due := if matchesEmpty before (some c) p then 0 else least - 1
        (residues before c p).map (·.andThen (repeated due (most.map (· - 1)) p))
  | group p => residues before c p

def occursAfter (p : Pattern) (before : Option Char) (begun : List Pattern) : List Char → Bool
  | [] => (p :: begun).any (matchesEmpty before none)
  | c :: cs =>
      (p :: begun).any (matchesEmpty before (some c)) ||
        occursAfter p (some c) ((p :: begun).flatMap (residues before c)).eraseDups cs

def occursIn (p : Pattern) (s : String) : Bool :=
  occursAfter p none [] s.toList

end Pattern

end PageBinding
