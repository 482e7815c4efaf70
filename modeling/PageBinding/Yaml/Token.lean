import PageBinding.Yaml.Scalar

/-!
The tokens of a data file.

Indentation becomes tokens that open and close block collections. That a text is the key of a
mapping shows only at the colon after it; the tokens that say so are put before the text then.
-/
namespace PageBinding.Yaml

inductive Style
  | plain
  | single
  | double
  | literal
  | folded
  deriving DecidableEq, Repr, Inhabited

inductive TokenKind
  | streamStart
  | streamEnd
  | version (major minor : Nat)
  | tagStart (handle start : String)
  | documentStart
  | documentEnd
  | sequenceStart
  | mappingStart
  | blockEnd
  | flowSequenceStart
  | flowSequenceEnd
  | flowMappingStart
  | flowMappingEnd
  | entry
  | comma
  | key
  | value
  | reference (name : String)
  | anchor (name : String)
  | tag (handle suffix : String)
  | scalar (text : String) (style : Style)
  deriving DecidableEq, Repr, Inhabited

structure Token where
  kind : TokenKind
  line : Nat
  deriving DecidableEq, Repr, Inhabited

structure Candidate where
  position : Nat
  required : Bool
  index : Nat
  line : Nat
  column : Nat
  deriving Inhabited

def keyLimit : Nat := 1024

def depthLimit : Nat := 10000

def Candidate.isOpen (k : Candidate) (c : Cursor) : Bool :=
  !(k.line < c.line || k.index + keyLimit < c.index)

structure Scanner where
  cursor : Cursor
  tokens : Array Token := #[]
  indent : Int := -1
  outer : List Int := []
  keyAllowed : Bool := true
  /-- The possible key of each flow collection, innermost first, and of the block around them. -/
  candidates : List (Option Candidate) := [none]
  readable : Option Nat := none
  droppedTo : Nat := 0
  deriving Inhabited

abbrev Scan := EStateM Finding Scanner

namespace Scan

def flowDepth (s : Scanner) : Nat :=
  s.candidates.length - 1

def inFlow : Scan Bool := do
  return flowDepth (← get) > 0

def failFrom {α : Type} (problem : Problem) (began : Nat) : Scan α := do
  throw ((← get).cursor.finding problem began)

def fail {α : Type} (problem : Problem) : Scan α := do
  failFrom problem (← get).cursor.line

def demand (count : Nat) : Scan Unit := do
  let s ← get
  if s.readable.any (· < s.cursor.index + count) then
    throw (s.cursor.finding .controlCharacter 0)

def moveTo (cursor : Cursor) : Scan Unit :=
  modify fun s => { s with cursor }

def emit (kind : TokenKind) (line : Nat) : Scan Unit :=
  modify fun s => { s with tokens := s.tokens.push ⟨kind, line⟩ }

def insertToken (position : Nat) (kind : TokenKind) (line : Nat) : Scan Unit :=
  modify fun s =>
    let tokens := s.tokens.toList
    { s with tokens := (tokens.take position ++ ⟨kind, line⟩ :: tokens.drop position).toArray }

def allowKey (allowed : Bool) : Scan Unit :=
  modify fun s => { s with keyAllowed := allowed }

/-! ## Keys -/

def candidate? : Scan (Option Candidate) := do
  return (← get).candidates.head?.join

def setCandidate (k : Option Candidate) : Scan Unit :=
  modify fun s => { s with candidates := k :: s.candidates.drop 1 }

def dropCandidate : Scan Unit := do
  match ← candidate? with
  | none => return
  | some k =>
      if k.required then failFrom .missingColon k.line
      setCandidate none

def saveCandidate : Scan Unit := do
  let s ← get
  if s.keyAllowed then
    let c := s.cursor
    let required := flowDepth s = 0 && s.indent = c.column
    dropCandidate
    setCandidate (some ⟨s.tokens.size, required, c.index, c.line, c.column⟩)

/-! ## Indentation -/

def openBlock (column : Nat) (position : Option Nat) (kind : TokenKind) (line : Nat) :
    Scan Unit := do
  if ← inFlow then return
  let s ← get
  if s.indent < column then
    if depthLimit ≤ s.outer.length then failFrom .tooDeep line
    set { s with indent := column, outer := s.indent :: s.outer }
    match position with
    | some n => insertToken n kind line
    | none => emit kind line

/-- The columns that stay open when those beyond a column are closed, and how many are closed. -/
def closed (column : Int) (indent : Int) : List Int → Nat × Int × List Int
  | [] => (0, indent, [])
  | parent :: outer =>
      if column < indent then
        let rest := closed column parent outer
        (rest.1 + 1, rest.2)
      else (0, indent, parent :: outer)

def closeBlocks (column : Int) : Scan Unit := do
  if ← inFlow then return
  modify fun s =>
    let done := closed column s.indent s.outer
    let ends := Array.replicate done.1 (⟨.blockEnd, s.cursor.line⟩ : Token)
    { s with tokens := s.tokens ++ ends, indent := done.2.1, outer := done.2.2 }

/-! ## Between tokens -/

def skipGap : (fuel : Nat) → Scan Unit
  | 0 => return
  | fuel + 1 => do
      let s ← get
      let tabs := flowDepth s > 0 || !s.keyAllowed
      let c := s.cursor
      let c := if c.column = 0 && c.index < s.droppedTo then c.skip else c
      let c := c.skipWhile fun x => x == ' ' || (tabs && x == '\t')
      let c := if c.rest.head? = some '#' then c.skipLine else c
      if (c.rest.head?.any isBreak) then
        moveTo c.takeBreak.2
        if flowDepth s = 0 then allowKey true
        skipGap fuel
      else moveTo c

/-! ## Single tokens -/

def mark (kind : TokenKind) (width : Nat) : Scan Unit := do
  let c := (← get).cursor
  emit kind c.line
  moveTo (c.skipMany width)

def endStream : Scan Unit := do
  let c := (← get).cursor
  if c.column ≠ 0 then moveTo { c with column := 0, line := c.line + 1 }
  closeBlocks (-1)
  dropCandidate
  allowKey false
  emit .streamEnd (← get).cursor.line

def documentMark (kind : TokenKind) : Scan Unit := do
  closeBlocks (-1)
  dropCandidate
  allowKey false
  mark kind 3

def openFlow (kind : TokenKind) : Scan Unit := do
  saveCandidate
  let s ← get
  if depthLimit ≤ flowDepth s then fail .tooDeep
  set { s with candidates := none :: s.candidates }
  allowKey true
  mark kind 1

def closeFlow (kind : TokenKind) : Scan Unit := do
  dropCandidate
  if ← inFlow then modify fun s => { s with candidates := s.candidates.drop 1 }
  allowKey false
  mark kind 1

def comma : Scan Unit := do
  dropCandidate
  allowKey true
  mark .comma 1

def entry : Scan Unit := do
  if !(← inFlow) then
    let s ← get
    if !s.keyAllowed then fail .entryNotAllowed
    openBlock s.cursor.column none .sequenceStart s.cursor.line
  dropCandidate
  allowKey true
  mark .entry 1

def explicitKey : Scan Unit := do
  if !(← inFlow) then
    let s ← get
    if !s.keyAllowed then fail .keyNotAllowed
    openBlock s.cursor.column none .mappingStart s.cursor.line
  dropCandidate
  allowKey (!(← inFlow))
  mark .key 1

def finishedKey? : Scan (Option Candidate) := do
  match ← candidate? with
  | none => return none
  | some k =>
      if k.isOpen (← get).cursor then return some k
      if k.required then failFrom .missingColon k.line
      setCandidate none
      return none

def value : Scan Unit := do
  match ← finishedKey? with
  | some k =>
      insertToken k.position .key k.line
      openBlock k.column (some k.position) .mappingStart k.line
      setCandidate none
      allowKey false
  | none =>
      if !(← inFlow) then
        let s ← get
        if !s.keyAllowed then fail .valueNotAllowed
        openBlock s.cursor.column none .mappingStart s.cursor.line
      allowKey (!(← inFlow))
  mark .value 1

def reference (kind : String → TokenKind) : Scan Unit := do
  saveCandidate
  allowKey false
  let c := (← get).cursor
  let name := c.skip.takeWhile isNameChar
  moveTo name.2
  let ends := endsWord name.2.rest || (name.2.rest.head?.any fun x => Text.oneOf "?:,]\x7d%@\x60" x)
  if name.1.isEmpty || !ends then failFrom .badAnchor c.line
  emit (kind (String.ofList name.1)) c.line

def scalar (style : Style) (read : Cursor → Except Finding Scalar) : Scan Unit := do
  let c := (← get).cursor
  match read c with
  | .error e => throw e
  | .ok x =>
      emit (.scalar (String.ofList x.text) style) c.line
      moveTo x.after
      if x.broken then allowKey true

def blockScalar (style : Style) : Scan Unit := do
  dropCandidate
  allowKey true
  let s ← get
  scalar style (block (style == .literal) s.indent)

def quotedScalar (style : Style) : Scan Unit := do
  saveCandidate
  allowKey false
  scalar style (quoted (style == .single))

def plainScalar (d : Dialect) : Scan Unit := do
  saveCandidate
  allowKey false
  let s ← get
  scalar .plain (plain d (flowDepth s > 0) (s.indent + 1))

/-! ## Tags and directives -/

def isTagChar (c : Char) : Bool :=
  isNameChar c || Text.oneOf ";/?:@&=+$,.!~*'()[]%" c

def tagText (began : Nat) : List Char → Scan (List Char)
  | [] => return []
  | '%' :: a :: b :: rest => do
      match Text.hexValue? a, Text.hexValue? b with
      | some x, some y => return Char.ofNat (16 * x + y) :: (← tagText began rest)
      | _, _ => failFrom .badTagEscape began
  | c :: rest => do
      if c = '%' then failFrom .badTagEscape began
      return c :: (← tagText began rest)

def tagRest (began : Nat) (known : Bool) : Scan (List Char) := do
  let c := (← get).cursor
  let taken := c.takeWhile isTagChar
  if taken.1.isEmpty && !known then failFrom .emptyTag began
  moveTo taken.2
  tagText began taken.1

def tagHandle (began : Nat) : Scan (List Char) := do
  let c := (← get).cursor
  if c.rest.head? ≠ some '!' then failFrom .badTagHandle began
  let name := c.skip.takeWhile isNameChar
  if name.2.rest.head? = some '!' then
    moveTo name.2.skip
    return '!' :: (name.1 ++ ['!'])
  else
    moveTo name.2
    return '!' :: name.1

def tag : Scan Unit := do
  saveCandidate
  allowKey false
  let c := (← get).cursor
  let began := c.line
  let parts ← if (c.rest.drop 1).head? = some '<' then do
      moveTo (c.skipMany 2)
      let suffix ← tagRest began false
      if (← get).cursor.rest.head? ≠ some '>' then failFrom .unclosedTag began
      modify fun s => { s with cursor := s.cursor.skip }
      pure ([], suffix)
    else do
      let handle ← tagHandle began
      if 1 < handle.length && handle.getLast? = some '!' then
        pure (handle, ← tagRest began false)
      else
        let rest ← tagRest began true
        let suffix := handle.drop 1 ++ rest
        if suffix.isEmpty then pure ([], ['!']) else pure (['!'], suffix)
  if !endsWord (← get).cursor.rest then failFrom .badTagEnd began
  emit (.tag (String.ofList parts.1) (String.ofList parts.2)) began

def versionNumber (began : Nat) : Scan Nat := do
  let digits := (← get).cursor.takeWhile Char.isDigit
  if 9 < digits.1.length then failFrom .longVersion began
  if digits.1.isEmpty then failFrom .noVersion began
  moveTo digits.2
  return Text.decimalValue digits.1

def skipSpaces : Scan Unit :=
  modify fun s => { s with cursor := s.cursor.skipWhile isGap }

def directiveValue (name : String) (began : Nat) : Scan TokenKind := do
  if name = "YAML" then
    skipSpaces
    let major ← versionNumber began
    if (← get).cursor.rest.head? ≠ some '.' then failFrom .badVersion began
    modify fun s => { s with cursor := s.cursor.skip }
    return .version major (← versionNumber began)
  else if name = "TAG" then
    skipSpaces
    let handle ← tagHandle began
    if handle ≠ ['!'] && handle.getLast? ≠ some '!' then failFrom .badTagHandle began
    if !((← get).cursor.rest.head?.any isGap) then failFrom .noBlank began
    skipSpaces
    let start ← tagRest began false
    if !endsWord (← get).cursor.rest then failFrom .badTagEnd began
    return .tagStart (String.ofList handle) (String.ofList start)
  else failFrom .unknownDirective began

def directive : Scan Unit := do
  closeBlocks (-1)
  dropCandidate
  allowKey false
  let c := (← get).cursor
  let began := c.line
  let name := c.skip.takeWhile isNameChar
  moveTo name.2
  if name.1.isEmpty then failFrom .noDirectiveName began
  if !endsWord name.2.rest then failFrom .badDirectiveName began
  let kind ← directiveValue (String.ofList name.1) began
  emit kind began
  skipSpaces
  let c := (← get).cursor
  let c := if c.rest.head? = some '#' then c.skipLine else c
  moveTo c
  if !endsLine c.rest then failFrom .badHeader began
  moveTo c.takeBreak.2

/-! ## The next token -/

def startsPlain (flow : Bool) (c : Char) (rest : List Char) : Bool :=
  !(isGap c || isBreak c || Text.oneOf "-?:,[]\x7b\x7d#&*!|>'\"%@\x60" c) ||
    (c == '-' && !(rest.head?.any isGap)) ||
    (!flow && (c == '?' || c == ':') && !endsWord rest)

def glance : Nat := 4

def step (d : Dialect) : Scan Bool := do
  skipGap ((← get).cursor.rest.length + 1)
  demand glance
  closeBlocks (← get).cursor.column
  let s ← get
  let c := s.cursor
  let flow := flowDepth s > 0
  match c.rest with
  | [] => endStream; return true
  | x :: rest =>
      if c.column = 0 && x = '%' then directive
      else if c.atDocument then
        documentMark (if x = '-' then .documentStart else .documentEnd)
      else if x = '[' then openFlow .flowSequenceStart
      else if x = '\x7b' then openFlow .flowMappingStart
      else if x = ']' then closeFlow .flowSequenceEnd
      else if x = '\x7d' then closeFlow .flowMappingEnd
      else if x = ',' then comma
      else if x = '-' && endsWord rest then entry
      else if x = '?' && (flow || endsWord rest) then explicitKey
      else if x = ':' && (flow || endsWord rest) then value
      else if x = '*' then reference .reference
      else if x = '&' then reference .anchor
      else if x = '!' then tag
      else if x = '|' && !flow then blockScalar .literal
      else if x = '>' && !flow then blockScalar .folded
      else if x = '\'' then quotedScalar .single
      else if x = '"' then quotedScalar .double
      else if startsPlain flow x rest then plainScalar d
      else fail .badTokenStart
      return false

/-- Reads tokens up to the end. What runs into characters that cannot be read is no token. -/
def all (d : Dialect) : (fuel : Nat) → Scan Unit
  | 0 => return
  | fuel + 1 => do
      let before ← get
      if ← step d then return
      let after ← get
      if after.readable.any (· ≤ after.cursor.index) then
        set before
        throw (after.cursor.finding .controlCharacter 0)
      all d fuel

end Scan

structure Tokens where
  tokens : List Token
  problem : Option Finding

/-- How many of the tokens before a problem can be used. The last ones are withheld if a token is
known only with some after it, and so is whatever may yet be a key. -/
def Scanner.settled (s : Scanner) (lookahead : Nat) : Nat :=
  let pending := s.candidates.filterMap fun k =>
    match k with
    | some k => if k.isOpen s.cursor then some k.position else none
    | none => none
  pending.foldl min (s.tokens.size - lookahead)

/-- The problem that stopped a scanner: one that shows only in characters that cannot be read is
that these cannot be read. -/
def Scanner.problem (s : Scanner) (found : Finding) : Finding :=
  if s.readable.any (· < found.index + Scan.glance) then
    { found with problem := .controlCharacter, began := 0, current := 0 }
  else found

/-- A scanner at the beginning of a text. A mark of the encoding before the text is skipped; if a
second one follows it, the first character of every line of the first part is dropped. -/
def Scanner.start (text : List Char) : Scanner :=
  let mark := '\ufeff'
  let marked := text.head? = some mark
  let text := if marked then text.drop 1 else text
  let bad := badPart? (if marked then mark.utf8Size else 0) text
  { cursor := .start ((bad.map text.take).getD text)
    tokens := #[⟨.streamStart, 0⟩]
    readable := bad
    droppedTo := if text.head? = some mark then partSize else 0 }

def tokens (d : Dialect) (text : List Char) : Tokens :=
  match EStateM.run (Scan.all d (text.length + 2)) (Scanner.start text) with
  | .ok _ s => ⟨s.tokens.toList, none⟩
  | .error e s => ⟨s.tokens.toList.take (s.settled d.lookahead), some (s.problem e)⟩

end PageBinding.Yaml
