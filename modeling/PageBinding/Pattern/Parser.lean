import PageBinding.Pattern.Basic
import PageBinding.Text.Basic

/-!
Reading patterns.
-/
namespace PageBinding.Pattern

open Text

def readPart (cs rest : List Char) : String :=
  String.ofList (cs.take (cs.length - rest.length))

/-! ## Characters and sets -/

def bracedHex (value count : Nat) : List Char → Option Nat × List Char
  | [] => (none, [])
  | c :: cs =>
      if c = '\x7d' then (if count = 0 then none else some value, cs)
      else match hexValue? c with
        | none => (none, cs)
        | some d =>
            let value := 16 * value + d
            if value > 0x10ffff then (none, cs) else bracedHex value (count + 1) cs

def hexCode : List Char → Option Nat × List Char
  | [] => (none, [])
  | '\x7b' :: cs => bracedHex 0 0 cs
  | [_] => (none, [])
  | c :: d :: cs => ((do return 16 * (← hexValue? c) + (← hexValue? d)), cs)

def isOctal (c : Char) : Bool :=
  '0' ≤ c && c ≤ '7'

def octalCode (c : Char) (cs : List Char) : Option Nat × List Char :=
  let more := (cs.take 2).takeWhile isOctal
  if c ≠ '0' && more.isEmpty then (none, cs)
  else (some ((c :: more).foldl (fun n d => 8 * n + (d.toNat - '0'.toNat)) 0), cs.drop more.length)

def controlCode? (c : Char) : Option Nat :=
  match c with
  | 'a' => some 7
  | 'f' => some 12
  | 'n' => some 10
  | 'r' => some 13
  | 't' => some 9
  | 'v' => some 11
  | _ => none

def escapeCode (cs : List Char) : Except PatternError (Nat × List Char) :=
  match cs.drop 1 with
  | [] => .error .trailingBackslash
  | c :: rest =>
      let (code, rest) :=
        if c = 'x' then hexCode rest
        else if isOctal c then octalCode c rest
        else if (controlCode? c).isSome then (controlCode? c, rest)
        else if c.toNat < 128 && !c.isAlphanum then (some c.toNat, rest)
        else (none, rest)
      match code with
      | some n => .ok (n, rest)
      | none => .error (.invalidEscape (readPart cs rest))

def digits : List (Nat × Nat) := [(0x30, 0x39)]

def letters : List (Nat × Nat) := [(0x41, 0x5a), (0x61, 0x7a)]

def wordChars : List (Nat × Nat) := digits ++ letters ++ [(0x5f, 0x5f)]

/-- The sets that a letter after a backslash stands for; its upper case stands for the others. -/
def letterSet? (c : Char) : Option CharPart :=
  let ranges? := match c.toLower with
    | 'd' => some digits
    | 's' => some [(0x09, 0x0a), (0x0c, 0x0d), (0x20, 0x20)]
    | 'w' => some wordChars
    | _ => none
  ranges?.map fun rs => { group := .ranges rs, negated := c.isUpper }

def namedRanges? (name : String) : Option (List (Nat × Nat)) :=
  match name with
  | "alnum" => some (digits ++ letters)
  | "alpha" => some letters
  | "ascii" => some [(0, 0x7f)]
  | "blank" => some [(0x09, 0x09), (0x20, 0x20)]
  | "cntrl" => some [(0, 0x1f), (0x7f, 0x7f)]
  | "digit" => some digits
  | "graph" => some [(0x21, 0x7e)]
  | "lower" => some [(0x61, 0x7a)]
  | "print" => some [(0x20, 0x7e)]
  | "punct" => some [(0x21, 0x2f), (0x3a, 0x40), (0x5b, 0x60), (0x7b, 0x7e)]
  | "space" => some [(0x09, 0x0d), (0x20, 0x20)]
  | "upper" => some [(0x41, 0x5a)]
  | "word" => some wordChars
  | "xdigit" => some [(0x30, 0x39), (0x41, 0x46), (0x61, 0x66)]
  | _ => none

def plainName (name : String) : String :=
  match name.toList.filter fun c => c ≠ '_' && c ≠ '-' && c ≠ ' ' with
  | [] => ""
  | c :: cs => String.ofList (c.toUpper :: cs.map Char.toLower)

def namedGroup? (name : String) : Option (CharGroup × Bool) :=
  let name := plainName name
  let same (other : String) : Bool := plainName other == name
  match name with
  | "Any" => some (.ranges [(0, 0x10ffff)], false)
  | "Ascii" => some (.ranges [(0, 0x7f)], false)
  | "Assigned" => some (.category "Cn", true)
  | _ =>
      match Category.names.find? same with
      | some category => some (.category category, false)
      | none =>
          match scripts.find? fun entry => same entry.1 with
          | some (script, _) => some (.script script, false)
          | none =>
              (Category.longNames.find? fun entry => same entry.1).map fun entry =>
                (.category entry.2, false)

def caret (name : List Char) : Bool × String :=
  match name with
  | '^' :: name => (true, String.ofList name)
  | name => (false, String.ofList name)

def namedSet? (ignoreCase : Bool) (cs : List Char) :
    Except PatternError (Option (CharPart × List Char)) :=
  match cs with
  | '[' :: ':' :: inner =>
      match indexOf [':', ']'] inner with
      | none => .ok none
      | some n =>
          let (negated, name) := caret (inner.take n)
          let rest := inner.drop (n + 2)
          match namedRanges? name with
          | some rs => .ok (some ({ group := .ranges rs, ignoreCase, negated }, rest))
          | none => .error (.invalidRange (readPart cs rest))
  | _ => .ok none

def category (ignoreCase : Bool) (cs : List Char) :
    Except PatternError (CharPart × List Char) := do
  let (name, rest) ← match cs.drop 2 with
    | '\x7b' :: inner =>
        match indexOf ['\x7d'] inner with
        | some n => .ok (inner.take n, inner.drop (n + 1))
        | none => .error (.invalidRange (String.ofList cs))
    | c :: rest => .ok ([c], rest)
    | [] => .ok ([], [])
  let (negated, name) := caret name
  match namedGroup? name with
  | some (found, complement) =>
      let negated := (negated != complement) != (cs[1]? == some 'P')
      return ({ group := found, ignoreCase, negated }, rest)
  | none => throw (.invalidRange (readPart cs rest))

def escapedSet? (ignoreCase : Bool) (cs : List Char) :
    Except PatternError (Option (CharPart × List Char)) :=
  match cs with
  | '\\' :: c :: rest =>
      if c = 'p' || c = 'P' then (category ignoreCase cs).map some
      else .ok ((letterSet? c).map fun set => ({ set with ignoreCase }, rest))
  | _ => .ok none

def setChar (whole cs : List Char) : Except PatternError (Nat × List Char) :=
  match cs with
  | [] => .error (.openSet (String.ofList whole))
  | '\\' :: _ => escapeCode cs
  | c :: rest => .ok (c.toNat, rest)

def setRange (ignoreCase : Bool) (whole cs : List Char) :
    Except PatternError (CharPart × List Char) := do
  let (low, rest) ← setChar whole cs
  match rest with
  | '-' :: d :: more =>
      if d = ']' then return (.single ignoreCase low, rest)
      let (high, rest) ← setChar whole (d :: more)
      if high < low then throw (.invalidRange (readPart cs rest))
      return ({ group := .ranges [(low, high)], ignoreCase }, rest)
  | _ => return (.single ignoreCase low, rest)

/-- The parts of a set up to its closing bracket, which is a character of the set where it stands
first; the fuel bounds their number. -/
def setParts (ignoreCase : Bool) (whole : List Char) :
    (fuel : Nat) → (first : Bool) → List Char → Except PatternError (List CharPart × List Char)
  | 0, _, _ => .error (.openSet (String.ofList whole))
  | fuel + 1, first, cs => do
      if !first && cs.head? = some ']' then return ([], cs.drop 1)
      let (part, rest) ← match ← namedSet? ignoreCase cs with
        | some found => pure found
        | none => match ← escapedSet? ignoreCase cs with
            | some found => pure found
            | none => setRange ignoreCase whole cs
      let (parts, rest) ← setParts ignoreCase whole fuel false rest
      return (part :: parts, rest)

def bracketSet (ignoreCase : Bool) (cs : List Char) :
    Except PatternError (CharSet × List Char) := do
  let (negated, inner) := match cs.drop 1 with
    | '^' :: inner => (true, inner)
    | inner => (false, inner)
  let (parts, rest) ← setParts ignoreCase cs (cs.length + 1) true inner
  return ({ parts, negated }, rest)

/-! ## Repetitions and groups -/

def count? (cs : List Char) : Option (Nat × List Char) :=
  let ds := cs.takeWhile isAsciiDigit
  if ds.isEmpty || (ds.length > 1 && ds.head? = some '0') then none
  else some (decimalValue ds, cs.drop ds.length)

def bounds? (cs : List Char) : Option (Nat × Option Nat × List Char) := do
  let (least, rest) ← count? (cs.drop 1)
  let (most, rest) ← match rest with
    | ',' :: '\x7d' :: _ => some (none, rest.drop 1)
    | ',' :: rest => (count? rest).map fun (most, rest) => (some most, rest)
    | rest => some (some least, rest)
  match rest with
  | '\x7d' :: rest => return (least, most, rest)
  | _ => none

structure Flags where
  ignoreCase : Bool := false
  multiline : Bool := false
  dotAll : Bool := false
  deriving Repr

/-- Flags at the head of a group, whether the group goes on, and what is left; or what is left where
the reading fails. -/
def readFlags (negative seen : Bool) (flags : Flags) :
    List Char → Except (List Char) (Flags × Bool × List Char)
  | [] => .error []
  | c :: cs =>
      match c with
      | 'i' => readFlags negative true { flags with ignoreCase := !negative } cs
      | 'm' => readFlags negative true { flags with multiline := !negative } cs
      | 's' => readFlags negative true { flags with dotAll := !negative } cs
      | 'U' => readFlags negative true flags cs
      | '-' => if negative then .error cs else readFlags true false flags cs
      | ':' | ')' => if negative && !seen then .error cs else .ok (flags, c == ':', cs)
      | _ => .error cs

def groupName (cs inner : List Char) : Except PatternError (List Char) :=
  match indexOf ['>'] inner with
  | none => .error (.invalidName (String.ofList cs))
  | some n =>
      let name := inner.take n
      let rest := inner.drop (n + 1)
      if name.isEmpty || !name.all (fun c => c.isAlphanum || c == '_') then
        .error (.invalidName (readPart cs rest))
      else .ok rest

structure Group where
  flags : Flags := {}
  apart : Bool := false
  earlier : List Pattern := []
  parts : List Pattern := []
  deriving Repr

namespace Group

def push (g : Group) (p : Pattern) : Group :=
  { g with parts := p :: g.parts }

def pushSet (g : Group) (part : CharPart) : Group :=
  g.push (one { parts := [part] })

def pushChar (g : Group) (n : Nat) : Group :=
  g.pushSet (.single g.flags.ignoreCase n)

def bar (g : Group) : Group :=
  { g with earlier := seqReversed g.parts :: g.earlier, parts := [] }

def toPattern (g : Group) : Pattern :=
  let p := altReversed (seqReversed g.parts :: g.earlier)
  if g.apart then group p else p

/-- A group whose last part is repeated. `last` is where a repetition right before begins. -/
def repeatLast (g : Group) (least : Nat) (most : Option Nat) (last : Option (List Char))
    (cs rest : List Char) : Except PatternError (Group × List Char) := do
  let rest := if rest.head? = some '?' then rest.drop 1 else rest
  if let some last := last then throw (.nestedRepeat (readPart last rest))
  match g.parts with
  | [] => throw (.nothingToRepeat (readPart cs rest))
  | p :: parts =>
      let p := repeated least most p
      if !p.repeatsWithin 1000 then throw (.repeatCount (readPart cs rest))
      return ({ g with parts := p :: parts }, rest)

end Group

/-! ## Patterns -/

/-- The group being read, those around it, and where a repetition that was just read begins. -/
structure Reading where
  group : Group := {}
  outer : List Group := []
  last : Option (List Char) := none
  deriving Repr

namespace Reading

def withGroup (r : Reading) (group : Group) : Reading :=
  { r with group, last := none }

def enter (r : Reading) (flags : Flags) (apart : Bool) : Reading where
  group := { flags, apart }
  outer := r.group :: r.outer

def withRepeat (r : Reading) (cs : List Char) (done : Group × List Char) : Reading × List Char :=
  ({ r with group := done.1, last := some cs }, done.2)

def openGroup (r : Reading) (cs : List Char) : Except PatternError (Reading × List Char) :=
  let flags := r.group.flags
  match cs with
  | '(' :: '?' :: 'P' :: '<' :: c :: rest => return (r.enter flags true, ← groupName cs (c :: rest))
  | '(' :: '?' :: '<' :: c :: rest => return (r.enter flags true, ← groupName cs (c :: rest))
  | '(' :: '?' :: rest =>
      match readFlags false false flags rest with
      | .error rest => .error (.unsupported (readPart cs rest))
      | .ok (flags, true, rest) => .ok (r.enter flags false, rest)
      | .ok (flags, false, rest) => .ok (r.withGroup { r.group with flags }, rest)
  | _ => .ok (r.enter flags true, cs.drop 1)

def escaped (r : Reading) (cs : List Char) : Except PatternError (Reading × List Char) := do
  let anchored (a : Anchor) := (r.withGroup (r.group.push (anchor a)), cs.drop 2)
  match cs[1]? with
  | some 'A' => return anchored .textStart
  | some 'b' => return anchored .wordEdge
  | some 'B' => return anchored .noWordEdge
  | some 'z' => return anchored .textEnd
  | some 'C' => throw (.invalidEscape "\\C")
  | some 'Q' =>
      let inner := cs.drop 2
      let n := (indexOf ['\\', 'E'] inner).getD inner.length
      let group := (inner.take n).foldl (fun g c => g.pushChar c.toNat) r.group
      return (r.withGroup group, inner.drop (n + 2))
  | _ =>
      match ← escapedSet? r.group.flags.ignoreCase cs with
      | some (set, rest) => return (r.withGroup (r.group.pushSet set), rest)
      | none =>
          let (n, rest) ← escapeCode cs
          return (r.withGroup (r.group.pushChar n), rest)

/-- One step of the reading of a text, which is `whole`; what is left of it begins with `c`. -/
def step (whole : List Char) (r : Reading) (c : Char) (rest : List Char) :
    Except PatternError (Reading × List Char) := do
  let cs := c :: rest
  let flags := r.group.flags
  let pushed (p : Pattern) := (r.withGroup (r.group.push p), rest)
  let repetition (least : Nat) (most : Option Nat) (rest : List Char) := do
    return r.withRepeat cs (← r.group.repeatLast least most r.last cs rest)
  match c with
  | '(' => r.openGroup cs
  | '|' => return (r.withGroup r.group.bar, rest)
  | ')' =>
      match r.outer with
      | g :: outer =>
          let p ← r.group.toPattern.limited whole
          return ({ group := g.push p, outer }, rest)
      | [] => throw (.strayParen (String.ofList whole))
  | '^' => return pushed (anchor (if flags.multiline then .lineStart else .textStart))
  | '$' => return pushed (anchor (if flags.multiline then .lineEnd else .textEnd))
  | '.' =>
      let lineEnd : CharPart := .single false '\n'.toNat
      return pushed (one { parts := if flags.dotAll then [] else [lineEnd], negated := true })
  | '[' =>
      let (set, rest) ← bracketSet flags.ignoreCase cs
      return (r.withGroup (r.group.push (one set)), rest)
  | '*' => repetition 0 none rest
  | '+' => repetition 1 none rest
  | '?' => repetition 0 (some 1) rest
  | '\x7b' =>
      match bounds? cs with
      | none => return (r.withGroup (r.group.pushChar c.toNat), rest)
      | some (least, most, rest) =>
          if least > 1000 || most.any (· > 1000) || most.any (least > ·) then
            throw (.repeatCount (readPart cs rest))
          repetition least most rest
  | '\\' => r.escaped cs
  | _ => return (r.withGroup (r.group.pushChar c.toNat), rest)

def finish (whole : List Char) : (fuel : Nat) → Reading → List Char → Except PatternError Pattern
  | fuel + 1, r, c :: rest => do
      let (r, rest) ← r.step whole c rest
      finish whole fuel r rest
  | _, r, _ =>
      if r.outer.isEmpty then r.group.toPattern.limited whole
      else .error (.openGroup (String.ofList whole))

end Reading

def parse (cs : List Char) : Except PatternError Pattern :=
  Reading.finish cs cs.length {} cs

end PageBinding.Pattern
