import PageBinding.Yaml.Cursor

/-!
The texts of scalars: plain, quoted, and in blocks.

A break between two lines of a plain or quoted scalar is a space; further breaks stay as they are.
-/
namespace PageBinding.Yaml

structure Scalar where
  text : List Char
  after : Cursor
  broken : Bool := false
  deriving Inhabited

/-! ## Gaps between words -/

structure Gap where
  spaces : List Char := []
  first : List Char := []
  further : List Char := []
  broken : Bool := false
  deriving Inhabited

def foldBreaks (first further : List Char) : List Char :=
  if first.head? = some '\n' then
    if further.isEmpty then [' '] else further
  else first ++ further

def Gap.text (g : Gap) : List Char :=
  if g.broken then foldBreaks g.first g.further else g.spaces

/-- Takes the spaces and breaks at a place. Where `tabsFrom` is given, a tab that is the
indentation of a line may not stand before that column. -/
def takeGap (tabsFrom : Option Int) (began : Nat) :
    (fuel : Nat) → Gap → Cursor → Except Finding (Gap × Cursor)
  | 0, g, c => .ok (g, c)
  | fuel + 1, g, c =>
      match c.rest with
      | [] => .ok (g, c)
      | x :: _ =>
          if isGap x then
            if g.broken && x == '\t' && (tabsFrom.any fun column => (c.column : Int) < column) then
              .error (c.finding .tabBeforeText began)
            else if g.broken then takeGap tabsFrom began fuel g c.skip
            else takeGap tabsFrom began fuel { g with spaces := g.spaces ++ [x] } c.skip
          else if isBreak x then
            let next := c.takeBreak
            if g.broken then
              takeGap tabsFrom began fuel { g with further := g.further ++ next.1 } next.2
            else
              takeGap tabsFrom began fuel
                { g with spaces := [], first := g.first ++ next.1, broken := true } next.2
          else .ok (g, c)

/-! ## Plain scalars -/

def endsSpace (cs : List Char) : Bool :=
  match cs with
  | [] => true
  | c :: _ => c == ' ' || isBreak c

def plainWord (d : Dialect) (flow : Bool) : List Char → List Char
  | [] => []
  | c :: cs =>
      if isGap c || isBreak c then []
      else if c == ':' && endsWord cs then []
      else if flow && (Text.oneOf ",[]\x7b\x7d" c ||
          (c == '?' && (d.flowQuestions || endsSpace cs))) then []
      else c :: plainWord d flow cs

def plainFrom (d : Dialect) (flow : Bool) (indent : Int) (began : Nat) :
    (fuel : Nat) → List Char → Gap → Cursor → Except Finding Scalar
  | 0, text, gap, c => .ok ⟨text, c, gap.broken⟩
  | fuel + 1, text, gap, c =>
      let word := plainWord d flow c.rest
      if c.atDocument || c.rest.head? = some '#' || word.isEmpty then .ok ⟨text, c, gap.broken⟩
      else
        let text := text ++ gap.text ++ word
        let c := c.skipMany word.length
        if (c.rest.head?.any fun x => isGap x || isBreak x) then
          match takeGap (some indent) began (c.rest.length + 1) {} c with
          | .error e => .error e
          | .ok (gap, c) =>
              if !flow && (c.column : Int) < indent then .ok ⟨text, c, gap.broken⟩
              else plainFrom d flow indent began fuel text gap c
        else .ok ⟨text, c, false⟩

/-- Reads a plain scalar. Outside flow collections its lines stand at `indent` or further right. -/
def plain (d : Dialect) (flow : Bool) (indent : Int) (c : Cursor) : Except Finding Scalar :=
  plainFrom d flow indent c.line (c.rest.length + 1) [] {} c

/-! ## Quoted scalars -/

def simpleEscape? : Char → Option Char
  | '0' => some '\x00'
  | 'a' => some '\x07'
  | 'b' => some '\x08'
  | 't' => some '\t'
  | '\t' => some '\t'
  | 'n' => some '\n'
  | 'v' => some '\x0b'
  | 'f' => some '\x0c'
  | 'r' => some '\r'
  | 'e' => some '\x1b'
  | ' ' => some ' '
  | '"' => some '"'
  | '\'' => some '\''
  | '\\' => some '\\'
  | 'N' => some '\u0085'
  | '_' => some '\u00a0'
  | 'L' => some '\u2028'
  | 'P' => some '\u2029'
  | _ => none

def codeLength? : Char → Option Nat
  | 'x' => some 2
  | 'u' => some 4
  | 'U' => some 8
  | _ => none

def hexadecimal? (n : Nat) (cs : List Char) : Option Nat :=
  let digits := (cs.take n).filterMap Text.hexValue?
  if digits.length = n then some (digits.foldl (fun value d => 16 * value + d) 0) else none

/-- The character of an escape in double quotes, the backslash already taken off, and the place
after it. -/
def escape (began : Nat) (letter : Char) (c : Cursor) : Except Finding (Char × Cursor) :=
  let c := c.skip
  match simpleEscape? letter, codeLength? letter with
  | some x, _ => .ok (x, c)
  | none, none => .error (c.finding .unknownEscape began)
  | none, some n =>
      match hexadecimal? n c.rest with
      | none => .error ((c.skipMany n).finding .badHexadecimal began)
      | some code =>
          if (0xd800 ≤ code && code ≤ 0xdfff) || 0x10ffff < code then
            .error (c.finding .badEscapeCode began)
          else .ok (Char.ofNat code, c.skipMany n)

/-- A word of a quoted scalar: up to the closing quote, a space, a break or the end. The flag tells
that a break was escaped. -/
def quotedWord (single : Bool) (began : Nat) :
    (fuel : Nat) → List Char → Cursor → Except Finding (List Char × Bool × Cursor)
  | 0, word, c => .ok (word, false, c)
  | fuel + 1, word, c =>
      match c.rest with
      | [] => .ok (word, false, c)
      | x :: rest =>
          if isGap x || isBreak x then .ok (word, false, c)
          else if single then
            if x == '\'' then
              if rest.head? = some '\'' then
                quotedWord single began fuel (word ++ ['\'']) (c.skipMany 2)
              else .ok (word, false, c)
            else quotedWord single began fuel (word ++ [x]) c.skip
          else if x == '"' then .ok (word, false, c)
          else if x == '\\' then
            match rest with
            | [] => .error (c.finding .unknownEscape began)
            | y :: _ =>
                if isBreak y then .ok (word, true, c.skip.takeBreak.2)
                else match escape began y c.skip with
                  | .error e => .error e
                  | .ok (z, c) => quotedWord single began fuel (word ++ [z]) c
          else quotedWord single began fuel (word ++ [x]) c.skip

def quotedFrom (single : Bool) (began : Nat) :
    (fuel : Nat) → List Char → Cursor → Except Finding Scalar
  | 0, text, c => .ok ⟨text, c, false⟩
  | fuel + 1, text, c =>
      if c.atDocument then .error (c.finding .documentInQuotes began)
      else if c.rest.isEmpty then .error (c.finding .endInQuotes began)
      else
        match quotedWord single began (c.rest.length + 1) [] c with
        | .error e => .error e
        | .ok (word, escaped, c) =>
            let text := text ++ word
            if !escaped && c.rest.head? = some (if single then '\'' else '"') then
              .ok ⟨text, c.skip, false⟩
            else
              match takeGap none began (c.rest.length + 1) { broken := escaped } c with
              | .error e => .error e
              | .ok (gap, c) => quotedFrom single began fuel (text ++ gap.text) c

def quoted (single : Bool) (c : Cursor) : Except Finding Scalar :=
  quotedFrom single c.line (c.rest.length + 2) [] c.skip

/-! ## Blocks -/

inductive Chomping
  | strip
  | clip
  | keep
  deriving DecidableEq, Repr, Inhabited

def chomping? : Char → Option Chomping
  | '+' => some .keep
  | '-' => some .strip
  | _ => none

/-- The header of a block: its chomping and how much further right than its parent it stands, if
that is given; and the place after it. -/
def blockHeader (began : Nat) (c : Cursor) :
    Except Finding (Chomping × Option Nat × Cursor) :=
  let digit (c : Cursor) : Except Finding (Option Nat × Cursor) :=
    match c.rest with
    | x :: _ =>
        if x == '0' then .error (c.finding .zeroIndent began)
        else if x.isDigit then .ok (some (x.toNat - '0'.toNat), c.skip)
        else .ok (none, c)
    | [] => .ok (none, c)
  match c.rest.head?.bind chomping? with
  | some chomp =>
      match digit c.skip with
      | .error e => .error e
      | .ok (increment, c) => .ok (chomp, increment, c)
  | none =>
      match digit c with
      | .error e => .error e
      | .ok (none, c) => .ok (.clip, none, c)
      | .ok (some n, c) =>
          match c.rest.head?.bind chomping? with
          | some chomp => .ok (chomp, some n, c.skip)
          | none => .ok (.clip, some n, c)

/-- Takes blank lines and the indentation of the line after them: the breaks, the widest
indentation seen, and the place of the text. -/
def blockBreaks (indent : Nat) (began : Nat) :
    (fuel : Nat) → List Char → Nat → Cursor → Except Finding (List Char × Nat × Cursor)
  | 0, breaks, widest, c => .ok (breaks, widest, c)
  | fuel + 1, breaks, widest, c =>
      let spaces := (c.rest.takeWhile (· == ' ')).length
      let c := c.skipMany (if indent = 0 then spaces else min spaces (indent - c.column))
      let widest := max widest c.column
      match c.rest with
      | [] => .ok (breaks, widest, c)
      | x :: _ =>
          if (indent = 0 || c.column < indent) && x == '\t' then
            .error (c.finding .tabInIndent began)
          else if isBreak x then
            let next := c.takeBreak
            blockBreaks indent began fuel (breaks ++ next.1) widest next.2
          else .ok (breaks, widest, c)

/-- What has been read of a block: the text, the break of the last line, and the breaks of blank
lines after it. -/
structure Block where
  text : List Char := []
  last : List Char := []
  blank : List Char := []
  indented : Bool := false

def Block.joined (b : Block) (literal indented : Bool) : List Char :=
  let folds := !literal && !b.indented && !indented && b.last.head? = some '\n'
  let join := if folds then (if b.blank.isEmpty then [' '] else []) else b.last
  b.text ++ join ++ b.blank

def blockLines (literal : Bool) (indent : Nat) (began : Nat) :
    (fuel : Nat) → Block → Cursor → Except Finding (Block × Cursor)
  | 0, b, c => .ok (b, c)
  | fuel + 1, b, c =>
      match c.rest with
      | [] => .ok (b, c)
      | x :: _ =>
          if c.column ≠ indent then .ok (b, c)
          else
            let indented := isGap x
            let line := c.takeWhile fun x => !isBreak x
            let next := line.2.takeBreak
            match blockBreaks indent began (next.2.rest.length + 1) [] 0 next.2 with
            | .error e => .error e
            | .ok (blank, _, c) =>
                blockLines literal indent began fuel
                  ⟨b.joined literal indented ++ line.1, next.1, blank, indented⟩ c

/-- Reads a block scalar at its indicator. `parent` is the indentation of what it stands in, -1 at
the top. -/
def block (literal : Bool) (parent : Int) (c : Cursor) : Except Finding Scalar := do
  let began := c.line
  let (chomp, increment, c) ← blockHeader began c.skip
  let c := c.skipWhile isGap
  let c := if c.rest.head? = some '#' then c.skipLine else c
  if !endsLine c.rest then throw (c.finding .badHeader began)
  let c := c.takeBreak.2
  let given := match increment with
    | some n => (max parent 0).toNat + n
    | none => 0
  let (breaks, widest, c) ← blockBreaks given began (c.rest.length + 1) [] 0 c
  let indent := if given = 0 then max (max widest (parent + 1).toNat) 1 else given
  let (b, c) ← blockLines literal indent began (c.rest.length + 1) { blank := breaks } c
  let text := match chomp with
    | .strip => b.text
    | .clip => b.text ++ b.last
    | .keep => b.text ++ b.last ++ b.blank
  return ⟨text, c, true⟩

end PageBinding.Yaml
