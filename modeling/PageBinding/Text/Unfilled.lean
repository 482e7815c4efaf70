import PageBinding.Text.Basic

/-!
Texts that are taken for patterns with verbs after percent signs, where there is nothing to fill in.
-/
namespace PageBinding.Text

/-- A number in brackets at the beginning of a text, if there are brackets: how many characters they
take, and whether what stands in them is a number. -/
def indexIn (cs : List Char) : Option (Nat × Bool) :=
  match cs with
  | '[' :: rest =>
      let inner := rest.takeWhile (· ≠ ']')
      if inner.length = rest.length || cs.length < 3 then some (1, false)
      else some (inner.length + 2, !inner.isEmpty && inner.all Char.isDigit)
  | _ => none

/-- What is written for a verb and the marks before it, where there is nothing to write; and how
many characters those are. -/
def unfilledVerb (cs : List Char) : List Char × Nat :=
  let flags := (cs.takeWhile fun c => oneOf "#0+- " c).length
  let index (n : Nat) (found : Bool) : Nat × Bool × Bool :=
    if found then (n, true, false)
    else match indexIn (cs.drop n) with
      | some (width, ok) => (n + width, ok, true)
      | none => (n, false, false)
  let digits (n : Nat) : Nat := ((cs.drop n).takeWhile Char.isDigit).length
  let first := index flags false
  let star := cs[first.1]? = some '*'
  let width := if star then 1 else digits first.1
  let bad := first.2.2 || (first.2.1 && !star && width ≠ 0)
  let found := first.2.1 && !star
  let n := first.1 + width
  let out := if star then "%!(BADWIDTH)".toList else []
  let (n, found, bad, out) :=
    if cs[n]? = some '.' then
      let second := index (n + 1) false
      let star := cs[second.1]? = some '*'
      (second.1 + (if star then 1 else digits second.1), second.2.1 && !star,
        bad || found || second.2.2, if star then out ++ "%!(BADPREC)".toList else out)
    else (n, found, bad, out)
  let last := index n found
  match cs[last.1]? with
  | none => (out ++ "%!(NOVERB)".toList, last.1)
  | some verb =>
      let shown := if verb = '%' then ['%']
        else '%' :: '!' :: verb :: (if bad || last.2.2 then "(BADINDEX)" else "(MISSING)").toList
      (out ++ shown, last.1 + 1)

def unfilledChars : (fuel : Nat) → List Char → List Char
  | 0, _ => []
  | _, [] => []
  | fuel + 1, '%' :: cs =>
      let verb := unfilledVerb cs
      verb.1 ++ unfilledChars fuel (cs.drop verb.2)
  | fuel + 1, c :: cs => c :: unfilledChars fuel cs

def unfilled (pattern : String) : String :=
  String.ofList (unfilledChars pattern.length pattern.toList)

end PageBinding.Text
