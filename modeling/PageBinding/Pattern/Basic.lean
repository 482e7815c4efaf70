import PageBinding.Text.Category
import PageBinding.Text.Fold
import PageBinding.Text.Letter
import PageBinding.Text.Script

/-!
Patterns for texts, and which characters a set of characters has.
-/
namespace PageBinding

inductive CharGroup
  | ranges (rs : List (Nat × Nat))
  | category (name : String)
  | script (name : String)
  deriving DecidableEq, Repr

structure CharPart where
  group : CharGroup
  ignoreCase : Bool := false
  negated : Bool := false
  deriving DecidableEq, Repr

structure CharSet where
  parts : List CharPart
  negated : Bool := false
  deriving DecidableEq, Repr

inductive Anchor
  | textStart
  | textEnd
  | lineStart
  | lineEnd
  | wordEdge
  | noWordEdge
  deriving DecidableEq, Repr

inductive Pattern
  | empty
  | one (set : CharSet)
  | anchor (a : Anchor)
  | seq (p q : Pattern)
  | alt (p q : Pattern)
  | repeated (least : Nat) (most : Option Nat) (p : Pattern)
  | group (p : Pattern)
  deriving DecidableEq, Repr

inductive PatternError
  | trailingBackslash
  | invalidEscape (part : String)
  | invalidRange (part : String)
  | openSet (part : String)
  | openGroup (part : String)
  | strayParen (part : String)
  | invalidName (part : String)
  | unsupported (part : String)
  | repeatCount (part : String)
  | nestedRepeat (part : String)
  | nothingToRepeat (part : String)
  | tooDeep (part : String)
  | tooLarge (part : String)
  | notText (part : String)
  deriving DecidableEq, Repr

def PatternError.message (e : PatternError) : String :=
  let (reason, part) := match e with
    | trailingBackslash => ("trailing backslash at end of expression", "")
    | invalidEscape part => ("invalid escape sequence", part)
    | invalidRange part => ("invalid character class range", part)
    | openSet part => ("missing closing ]", part)
    | openGroup part => ("missing closing )", part)
    | strayParen part => ("unexpected )", part)
    | invalidName part => ("invalid named capture", part)
    | unsupported part => ("invalid or unsupported Perl syntax", part)
    | repeatCount part => ("invalid repeat count", part)
    | nestedRepeat part => ("invalid nested repetition operator", part)
    | nothingToRepeat part => ("missing argument to repetition operator", part)
    | tooDeep part => ("expression nests too deeply", part)
    | tooLarge part => ("expression too large", part)
    | notText part => ("invalid UTF-8", part)
  "error parsing regexp: " ++ reason ++ ": \x60" ++ part ++ "\x60"

def inRanges (ranges : List (Nat × Nat)) (n : Nat) : Bool :=
  ranges.any fun range => range.1 ≤ n && n ≤ range.2

def CharGroup.has (g : CharGroup) (n : Nat) : Bool :=
  match g with
  | ranges rs => inRanges rs n
  | category name => Text.Category.has name n
  | script name => ((Text.scripts.lookup name).map fun t => t.has n).getD false

namespace CharPart

def covers (p : CharPart) (c : Char) : Bool :=
  if p.ignoreCase then (Text.caseVariants c).any fun d => p.group.has d.toNat
  else p.group.has c.toNat

def has (p : CharPart) (c : Char) : Bool :=
  p.covers c != p.negated

def single (ignoreCase : Bool) (n : Nat) : CharPart where
  group := .ranges [(n, n)]
  ignoreCase

def isSingle (p : CharPart) : Bool :=
  match p.group with
  | .ranges [(low, high)] => low == high && !p.negated
  | _ => false

end CharPart

def CharSet.has (s : CharSet) (c : Char) : Bool :=
  s.parts.any (·.has c) != s.negated

namespace Pattern

def seqReversed : List Pattern → Pattern
  | [] => empty
  | p :: before => before.foldl (fun rest q => seq q rest) p

def altReversed : List Pattern → Pattern
  | [] => empty
  | p :: before => before.foldl (fun rest q => alt q rest) p

def repeatsWithin (n : Nat) : Pattern → Bool
  | empty | one _ | anchor _ => true
  | group p => repeatsWithin n p
  | seq p q | alt p q => repeatsWithin n p && repeatsWithin n q
  | repeated least most p =>
      let m := most.getD least
      if most = some 0 then true
      else if m > n then false
      else repeatsWithin (if m = 0 then n else n / m) p

def isPlain : Pattern → Bool
  | one set => set.parts.length == 1 && set.parts.all (·.isSingle) && !set.negated
  | seq p q => isPlain p && isPlain q
  | _ => false

/-- How deep patterns are nested in one another. Neither a sequence of characters nor a choice of
characters is nesting. -/
def height : Pattern → Nat
  | empty | one _ | anchor _ => 1
  | group p | repeated _ _ p => height p + 1
  | seq p q =>
      if isPlain p && isPlain q then 1
      else match q with
        | seq _ _ => max (height p + 1) (max 2 (height q))
        | _ => max (height p) (height q) + 1
  | alt p q =>
      match p, q with
      | one _, one _ => 1
      | _, alt _ _ => max (height p + 1) (height q)
      | _, _ => max (height p) (height q) + 1

def size : Pattern → Nat
  | empty | one _ | anchor _ => 1
  | group p => size p + 2
  | seq p q => size p + size q
  | alt p q => size p + size q + 1
  | repeated least none p => if least = 0 then size p + 2 else least * size p + 1
  | repeated least (some most) p => max 1 (most * size p + (most - least))

/-- The pattern, unless it goes beyond the limits; `whole` is the text that it is read from. -/
def limited (whole : List Char) (p : Pattern) : Except PatternError Pattern :=
  if p.size > 3355443 then .error (.tooLarge (String.ofList whole))
  else if p.height > 1000 then .error (.tooDeep (String.ofList whole))
  else .ok p

end Pattern

end PageBinding
