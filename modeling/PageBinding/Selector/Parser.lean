import PageBinding.Selector.Basic
import PageBinding.Pattern.Parser
import PageBinding.Text.Quoted
import PageBinding.Text.Case

/-!
Reading selectors, byte by byte: a reader takes each byte for the character that has its number, and
any byte beyond ASCII can be part of a name.
-/
namespace PageBinding

def SelectorError.message : SelectorError → String
  | invalidEscape => "invalid escape sequence"
  | escapedLineEnd => "escaped line ending outside string"
  | identifierMissing none => "expected identifier, found EOF instead"
  | identifierMissing (some c) => s!"expected identifier, found {c} instead"
  | nameMissing => "expected name, found EOF instead"
  | stringMissing => "expected string, found EOF instead"
  | lineEndInString => "unexpected end of line in string"
  | openString => "EOF in string"
  | openAttribute => "unexpected EOF in attribute selector"
  | equalityMissing found => s!"expected equality operator, found \"{found}\" instead"
  | bracketMissing found => s!"expected ']', found '{found}' instead"
  | unsupportedOperator op => "attribute operator " ++ op.shown ++ " is not supported"
  | emptyPseudo => "got empty pseudoclass (or pseudoelement)"
  | unknownPseudoElement name => "unknown pseudoelement :" ++ name
  | unknownPseudo name => "unknown pseudoclass or pseudoelement :" ++ name
  | parenMissing => "expected '(' but didn't find it"
  | closingParenMissing => "expected ')' but didn't find it"
  | unmatchedParen => "unmatched '('"
  | openPseudo => "unexpected EOF in pseudo selector"
  | integerMissing => "expected integer, but didn't find it"
  | integerTooLarge digits =>
      "strconv.Atoi: parsing " ++ Text.shown digits ++ ": value out of range"
  | oddOrEven found => s!"expected 'odd' or 'even', but found '{found}' instead"
  | openNth => "unexpected EOF while attempting to parse expression of form an+b"
  | badNth => "unexpected character while attempting to parse expression of form an+b"
  | selectorMissing => "expected selector, found EOF instead"
  | pseudoElement name =>
      s!"pseudo-element {name} found, but pseudo-elements support is disabled"
  | leftOver selector bytes => "parsing " ++ selector.shown ++ s!": {bytes} bytes left over"
  | patternMissing => "expected regular expression, found EOF instead"
  | openPattern => "EOF in regular expression"
  | badPattern cause => cause.message

namespace Selector

open Text

abbrev Reader := StateT (List Char) (Except SelectorError)

/-! ## Names and strings -/

def isNameStart (c : Char) : Bool :=
  ('a' ≤ c && c ≤ 'z') || ('A' ≤ c && c ≤ 'Z') || c == '_' || c.toNat > 127

def isNameChar (c : Char) : Bool :=
  isNameStart c || c == '-' || ('0' ≤ c && c ≤ '9')

def lowerName (cs : List Char) : RawText :=
  .ofByteChars (cs.map Char.toLower)

def shorterThan (n : Nat) (cs : List Char) : Bool :=
  (cs.take n).length < n

def escapedCode (digits : List Char) : Char :=
  let n := digits.foldl (fun n c => 16 * n + (hexValue? c).getD 0) 0
  if n.isValidChar then Char.ofNat n else '\ufffd'

def dropEscapeEnd : List Char → List Char
  | '\r' :: '\n' :: cs => cs
  | c :: cs => if c = '\r' || c = ' ' || c = '\t' || c = '\n' || c = '\x0c' then cs else c :: cs
  | [] => []

def escape : Reader (List Char) := do
  match ← get with
  | [] => throw .invalidEscape
  | c :: cs =>
      if c = '\r' || c = '\n' || c = '\x0c' then throw .escapedLineEnd
      else if (hexValue? c).isSome then
        let digits := ((c :: cs).take 6).takeWhile fun d => (hexValue? d).isSome
        set (dropEscapeEnd ((c :: cs).drop digits.length))
        return (RawText.chars (String.singleton (escapedCode digits))).byteChars
      else
        set cs
        return [c]

def nameChars : (fuel : Nat) → Reader (List Char)
  | 0 => return []
  | fuel + 1 => do
      match ← get with
      | [] => return []
      | c :: cs =>
          if isNameChar c then
            set cs
            return c :: (← nameChars fuel)
          else if c = '\\' then
            set cs
            let e ← escape
            return e ++ (← nameChars fuel)
          else return []

def name : Reader (List Char) := do
  let cs ← nameChars (← get).length
  if cs.isEmpty then throw .nameMissing else return cs

def identifier : Reader (List Char) := do
  let hyphens := (← get).takeWhile (· == '-')
  let rest := (← get).drop hyphens.length
  set rest
  match rest with
  | [] => throw (.identifierMissing none)
  | c :: _ =>
      if isNameStart c || c = '\\' then return hyphens ++ (← name)
      else throw (.identifierMissing (some c))

def stringChars (quote : Char) : (fuel : Nat) → Reader (List Char)
  | 0 => throw .openString
  | fuel + 1 => do
      match ← get with
      | [] => throw .openString
      | '\\' :: '\r' :: '\n' :: cs => set cs; stringChars quote fuel
      | '\\' :: '\r' :: cs => set cs; stringChars quote fuel
      | '\\' :: '\n' :: cs => set cs; stringChars quote fuel
      | '\\' :: '\x0c' :: cs => set cs; stringChars quote fuel
      | c :: cs =>
          set cs
          if c = '\\' then
            let e ← escape
            return e ++ (← stringChars quote fuel)
          else if c = quote then return []
          else if c = '\r' || c = '\n' || c = '\x0c' then throw .lineEndInString
          else return c :: (← stringChars quote fuel)

def quoted : Reader (List Char) := do
  let cs ← get
  if shorterThan 2 cs then throw .stringMissing
  match cs with
  | quote :: rest => set rest; stringChars quote cs.length
  | [] => throw .stringMissing

def word : Reader (List Char) := do
  match ← get with
  | c :: _ => if c = '\'' || c = '"' then quoted else identifier
  | [] => identifier

/-! ## Spaces and parentheses -/

def afterComment : List Char → Option (List Char)
  | '*' :: '/' :: cs => some cs
  | _ :: cs => afterComment cs
  | [] => none

def dropSpace : (fuel : Nat) → List Char → List Char
  | 0, cs => cs
  | fuel + 1, c :: cs =>
      if c = ' ' || c = '\t' || c = '\r' || c = '\n' || c = '\x0c' then dropSpace fuel cs
      else match c, cs with
        | '/', '*' :: rest =>
            match afterComment rest with
            | some rest => dropSpace fuel rest
            | none => c :: cs
        | _, _ => c :: cs
  | _ + 1, [] => []

def space : Reader Bool := do
  let cs ← get
  let rest := dropSpace cs.length cs
  set rest
  return rest.length < cs.length

def openParen : Reader Unit := do
  match ← get with
  | '(' :: cs => set cs; discard space
  | _ => throw .parenMissing

def closeParen : Reader Unit := do
  discard space
  match ← get with
  | ')' :: cs => set cs
  | _ => throw .closingParenMissing

/-! ## Simple selectors -/

/-- The end of a pattern in parentheses or brackets: the first closing one without a partner. -/
def patternEnd : (depth : Nat) → List Char → Option (List Char × List Char)
  | _, [] => none
  | depth, c :: cs =>
      if c = '(' || c = '[' then (patternEnd (depth + 1) cs).map fun r => (c :: r.1, r.2)
      else if c = ')' || c = ']' then
        match depth with
        | 0 => some ([], c :: cs)
        | depth + 1 => (patternEnd depth cs).map fun r => (c :: r.1, r.2)
      else (patternEnd depth cs).map fun r => (c :: r.1, r.2)

def pattern : Reader Pattern := do
  let cs ← get
  if shorterThan 2 cs then throw .patternMissing
  match patternEnd 0 cs with
  | none => throw .openPattern
  | some (inner, rest) =>
      match RawText.ofByteChars inner with
      | .bytes bs _ => throw (.badPattern (.notText (Text.ofBytes bs)))
      | .chars s =>
          match Pattern.parse s.toList with
          | .error cause => throw (.badPattern cause)
          | .ok p =>
              set rest
              return p

def attrTest? (op : String) : Option AttrTest :=
  match op with
  | "=" => some .equal
  | "!=" => some .notEqual
  | "~=" => some .word
  | "|=" => some .dash
  | "^=" => some .start
  | "$=" => some .tail
  | "*=" => some .part
  | _ => none

def bracketed : Reader Selector := do
  discard space
  let key := lowerName (← identifier)
  discard space
  match ← get with
  | [] => throw .openAttribute
  | ']' :: cs => set cs; return .attr key .present "" false
  | a :: rest =>
      if shorterThan 3 (a :: rest) then throw .openAttribute
      let op : RawText ←
        if a = '=' then set rest; pure "="
        else if rest.head? = some '=' then
          set (rest.drop 1)
          pure (.ofByteChars [a, '='])
        else throw (.equalityMissing (RawText.ofByteChars ((a :: rest).take 2)).toText)
      discard space
      if (← get).isEmpty then throw .openAttribute
      let make ← if op = "#=" then do
          let p ← pattern
          pure fun _ => some (Selector.attrMatching key p)
        else do
          let value := RawText.ofByteChars (← word)
          pure fun ignoreCase => (attrTest? op.toText).map fun test => .attr key test value ignoreCase
      discard space
      let ignoreCase ← match ← get with
        | [] => throw .openAttribute
        | c :: cs => if c = 'i' || c = 'I' then set cs; pure true else pure false
      discard space
      match ← get with
      | [] => throw .openAttribute
      | c :: cs =>
          if c = ']' then
            set cs
            match make ignoreCase with
            | some s => return s
            | none => throw (.unsupportedOperator op)
          else throw (.bracketMissing c)

def integer : Reader Int := do
  let digits := (← get).takeWhile isAsciiDigit
  if digits.isEmpty then throw .integerMissing
  set ((← get).drop digits.length)
  let n := decimalValue digits
  if n < 0x8000000000000000 then return n else throw (.integerTooLarge (String.ofList digits))

def nthOffset (a : Int) : Reader (Int × Int) := do
  discard space
  match ← get with
  | [] => throw .openNth
  | '+' :: cs => set cs; discard space; return (a, ← integer)
  | '-' :: cs => set cs; discard space; return (a, -(← integer))
  | _ => return (a, 0)

def nthFactor (sign : Int) : Reader (Int × Int) := do
  match ← get with
  | [] => throw .openNth
  | c :: cs =>
      if isAsciiDigit c then
        let a := sign * (← integer)
        match ← get with
        | [] => throw .openNth
        | d :: ds => if d = 'n' || d = 'N' then set ds; nthOffset a else return (0, a)
      else if c = 'n' || c = 'N' then set cs; nthOffset sign
      else throw .badNth

def position : Reader (Int × Int) := do
  match ← get with
  | [] => throw .openNth
  | c :: cs =>
      if c = '-' then set cs; nthFactor (-1)
      else if c = '+' then set cs; nthFactor 1
      else if isAsciiDigit c || c = 'n' || c = 'N' then nthFactor 1
      else if oneOf "oOeE" c then
        let id := (lowerName (← name)).toText
        if id = "odd" then return (2, 1)
        else if id = "even" then return (2, 0)
        else throw (.oddOrEven id)
      else throw .badNth

def pseudoElements : List String :=
  ["after", "backdrop", "before", "cue", "first-letter", "first-line", "grammar-error", "marker",
    "placeholder", "selection", "spelling-error"]

def plainPseudo? (name : String) : Option Selector :=
  match name with
  | "first-child" => some (.nth 0 1 false false)
  | "last-child" => some (.nth 0 1 true false)
  | "first-of-type" => some (.nth 0 1 false true)
  | "last-of-type" => some (.nth 0 1 true true)
  | "only-child" => some (.only false)
  | "only-of-type" => some (.only true)
  | "input" => some (.condition .input)
  | "empty" => some (.condition .empty)
  | "root" => some (.condition .root)
  | "link" => some (.condition .link)
  | "enabled" => some (.condition .enabled)
  | "disabled" => some (.condition .disabled)
  | "checked" => some (.condition .checked)
  | "visited" | "hover" | "active" | "focus" | "target" => some (.condition .never)
  | _ => none

def textArgument (read : Reader (List Char)) : Reader String := do
  openParen
  if (← get).isEmpty then throw .unmatchedParen
  let value ← read
  discard space
  if (← get).isEmpty then throw .openPseudo
  closeParen
  return lower (RawText.ofByteChars value).toText

def scrutiny? (name : String) : Option Scrutiny :=
  match name with
  | "not" => some .itself
  | "has" => some .descendants
  | "haschild" => some .children
  | _ => none

def pseudo (group : Reader (List Selector)) : Reader Selector := do
  let double ← match ← get with
    | [] => throw .emptyPseudo
    | ':' :: cs => set cs; pure true
    | _ => pure false
  let name := (lowerName (← identifier)).toText
  if double && !pseudoElements.contains name then throw (.unknownPseudoElement name)
  match plainPseudo? name with
  | some s => return s
  | none =>
      match scrutiny? name with
      | some scrutiny =>
          openParen
          let g ← group
          closeParen
          return .nested scrutiny g
      | none =>
          if name = "contains" || name = "containsown" then
            return .contains (name == "containsown") (← textArgument word)
          else if name = "matches" || name = "matchesown" then
            openParen
            let p ← pattern
            closeParen
            return .matching (name == "matchesown") p
          else if name = "lang" then return .lang (← textArgument identifier)
          else if ["nth-child", "nth-last-child", "nth-of-type", "nth-last-of-type"].contains name
          then
            openParen
            let (a, b) ← position
            closeParen
            return .nth a b (name == "nth-last-child" || name == "nth-last-of-type")
              (name == "nth-of-type" || name == "nth-last-of-type")
          else if pseudoElements.contains name then throw (.pseudoElement name)
          else throw (.unknownPseudo name)

/-! ## Compound selectors -/

def simples (group : Reader (List Selector)) : (fuel : Nat) → Reader (List Selector)
  | 0 => return []
  | fuel + 1 => do
      match ← get with
      | '#' :: cs =>
          set cs
          let s := Selector.id (.ofByteChars (← name))
          return s :: (← simples group fuel)
      | '.' :: cs =>
          set cs
          let s := Selector.hasClass (.ofByteChars (← identifier))
          return s :: (← simples group fuel)
      | '[' :: cs =>
          set cs
          let s ← bracketed
          return s :: (← simples group fuel)
      | ':' :: cs =>
          set cs
          let s ← pseudo group
          return s :: (← simples group fuel)
      | _ => return []

def compound (group : Reader (List Selector)) : Reader Selector := do
  let first ← match ← get with
    | [] => throw .selectorMissing
    | '*' :: cs =>
        match cs with
        | '|' :: '*' :: rest => if rest.isEmpty then set cs else set rest
        | _ => set cs
        pure []
    | c :: _ =>
        if oneOf "#.[:" c then pure []
        else pure [Selector.tag (lowerName (← identifier))]
  let parts := first ++ (← simples group (← get).length)
  match parts with
  | [s] => return s
  | parts => return .all parts

/-- The parts of a selector after the first, with what joins them; the fuel bounds their number. -/
def chain (group : Reader (List Selector)) : (fuel : Nat) → Selector → Reader Selector
  | 0, left => return left
  | fuel + 1, left => do
      let spaced ← space
      let join (c : Combinator) : Reader Selector := do
        let right ← compound group
        chain group fuel (.combined c left right)
      let explicit (c : Combinator) (cs : List Char) : Reader Selector := do
        set cs
        discard space
        join c
      match ← get with
      | [] => return left
      | '+' :: cs => explicit .adjacent cs
      | '>' :: cs => explicit .child cs
      | '~' :: cs => explicit .sibling cs
      | c :: _ =>
          if c = ',' || c = ')' then return left
          else if spaced then join .descendant
          else return left

def complex (group : Reader (List Selector)) : Reader Selector := do
  discard space
  let first ← compound group
  chain group (← get).length first

def alternatives (group : Reader (List Selector)) : (fuel : Nat) → Reader (List Selector)
  | 0 => return []
  | fuel + 1 => do
      match ← get with
      | ',' :: cs =>
          set cs
          let s ← complex group
          return s :: (← alternatives group fuel)
      | _ => return []

/-- Selectors separated by commas, the parentheses in them nested at most as deep as the fuel. -/
def groupWithin : (fuel : Nat) → Reader (List Selector)
  | 0 => throw .selectorMissing
  | fuel + 1 => do
      let first ← complex (groupWithin fuel)
      return first :: (← alternatives (groupWithin fuel) (← get).length)

def parse (text : RawText) : Except SelectorError (List Selector) := do
  let cs := text.byteChars
  let (group, rest) ← (groupWithin (cs.length + 1)).run cs
  if rest.isEmpty then return group else throw (.leftOver text rest.length)

end Selector

end PageBinding
