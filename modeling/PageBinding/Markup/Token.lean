import PageBinding.Markup.Reference
import PageBinding.Markup.Vocabulary

/-!
The tokens of markup: tags, texts, comments and document types, as they are cut out of the text of
a page one at a time.
-/
namespace PageBinding.Markup

open Text

inductive Token
  | text (data : String)
  | comment (data : String)
  | doctype (data : String)
  | opening (name : String) (attrs : List TagAttr) (selfClosing : Bool)
  | closing (name : String)
  | done
  deriving Inhabited

structure Source where
  rest : List Char
  raw : Option String := none
  deriving Inhabited

/-! ## Characters -/

def isSpace (c : Char) : Bool :=
  oneOf " \n\r\t\x0c" c

def endsName (c : Char) : Bool :=
  isSpace c || c == '/' || c == '>'

def lowerName (cs : List Char) : List Char :=
  cs.map Char.toLower

def plainLineEnds : List Char → List Char
  | [] => []
  | '\r' :: '\n' :: cs => '\n' :: plainLineEnds cs
  | c :: cs => (if c = '\r' then '\n' else c) :: plainLineEnds cs

def replaceNul (cs : List Char) : List Char :=
  cs.map fun c => if c = '\x00' then '\ufffd' else c

def textData (cs : List Char) : String :=
  String.ofList (unescape false (plainLineEnds cs))

def commentData (cs : List Char) : String :=
  String.ofList (unescape false (replaceNul (plainLineEnds cs)))

/-! ## Raw text -/

def rawElements : List String :=
  ["iframe", "noembed", "noframes", "noscript", "plaintext", "script", "style", "textarea",
    "title", "xmp"]

def closes (name : List Char) (cs : List Char) : Bool :=
  lowerName (cs.take name.length) == name &&
  match cs.drop name.length with
  | c :: _ => endsName c
  | [] => false

def afterRaw (name : List Char) : List Char → List Char
  | [] => []
  | c :: cs =>
      match c, cs with
      | '<', '/' :: tail => if closes name tail then c :: cs else afterRaw name cs
      | _, _ => afterRaw name cs

/-- Where one is in the text of a script. A script may hide its closing tag in a comment, and in a
comment once more inside a script tag. -/
inductive ScriptState
  | plain
  | escaped (dashes : Nat)
  | doubled (dashes : Nat)

def afterScript : (fuel : Nat) → ScriptState → List Char → List Char
  | 0, _, _ => []
  | _ + 1, _, [] => []
  | fuel + 1, .plain, c :: cs =>
      match c, cs with
      | '<', '/' :: tail =>
          if closes "script".toList tail then c :: cs else afterScript fuel .plain tail
      | '<', '!' :: '-' :: '-' :: tail => afterScript fuel (.escaped 2) tail
      | _, _ => afterScript fuel .plain cs
  | fuel + 1, .escaped dashes, c :: cs =>
      if c = '-' then afterScript fuel (.escaped (dashes + 1)) cs
      else if c = '>' && dashes ≥ 2 then afterScript fuel .plain cs
      else if c ≠ '<' then afterScript fuel (.escaped 0) cs
      else match cs with
        | '/' :: tail =>
            if closes "script".toList tail then c :: cs else afterScript fuel (.escaped 0) tail
        | tail =>
            if closes "script".toList tail then afterScript fuel (.doubled 0) (tail.drop 7)
            else if tail.head?.any Char.isAlpha then afterScript fuel (.escaped 0) tail
            else afterScript fuel .plain tail
  | fuel + 1, .doubled dashes, c :: cs =>
      if c = '-' then afterScript fuel (.doubled (dashes + 1)) cs
      else if c = '>' && dashes ≥ 2 then afterScript fuel .plain cs
      else if c ≠ '<' then afterScript fuel (.doubled 0) cs
      else match cs with
        | '/' :: tail =>
            if closes "script".toList tail then afterScript fuel (.escaped 0) (tail.drop 7)
            else afterScript fuel (.doubled 0) tail
        | tail => afterScript fuel (.doubled 0) tail

def rawText (name : String) (cs : List Char) : List Char × List Char :=
  let rest :=
    if name = "plaintext" then []
    else if name = "script" then afterScript (cs.length + 1) .plain cs
    else afterRaw name.toList cs
  (cs.take (cs.length - rest.length), rest)

def rawData (name : String) (cs : List Char) : String :=
  let cs := replaceNul (plainLineEnds cs)
  String.ofList (if name = "textarea" || name = "title" then unescape false cs else cs)

/-! ## Tags -/

def attrKey (cs : List Char) : List Char × List Char :=
  let isKey (c : Char) : Bool := !(endsName c || c == '=')
  match cs with
  | '=' :: cs => ('=' :: cs.takeWhile isKey, cs.dropWhile isKey)
  | cs => (cs.takeWhile isKey, cs.dropWhile isKey)

/-- The value after the name of an attribute, and what follows it; none if the page ends. -/
def attrValue (cs : List Char) : Option (List Char × List Char) :=
  match cs.dropWhile isSpace with
  | [] => none
  | '/' :: cs => some ([], cs)
  | '=' :: cs =>
      match cs.dropWhile isSpace with
      | [] => none
      | '>' :: cs => some ([], '>' :: cs)
      | c :: cs =>
          if c = '\'' || c = '"' then
            match cs.dropWhile (· ≠ c) with
            | [] => none
            | _ :: rest => some (cs.takeWhile (· ≠ c), rest)
          else
            let isValue (c : Char) : Bool := !(isSpace c || c == '>')
            some ((c :: cs).takeWhile isValue, (c :: cs).dropWhile isValue)
  | cs => some ([], cs)

/-- The attributes of a tag, and what follows its bracket; none if the page ends. The fuel bounds
their number. -/
def tagAttrs : (fuel : Nat) → List Char → Option (List TagAttr × List Char)
  | 0, _ => none
  | fuel + 1, cs =>
      match cs.dropWhile isSpace with
      | [] => none
      | '>' :: rest => some ([], rest)
      | cs => do
          let key := attrKey cs
          let value ← attrValue key.2
          let more ← tagAttrs fuel value.2
          if key.1.isEmpty then return more
          let text := String.ofList (unescape true (plainLineEnds value.1))
          return (⟨String.ofList (lowerName key.1), text, key.1, rfl⟩ :: more.1, more.2)

/-- A tag after its bracket: its name, its attributes, whether it closes itself, what follows. -/
def tag (cs : List Char) : Option (String × List TagAttr × Bool × List Char) := do
  let name := cs.takeWhile (!endsName ·)
  let (attrs, rest) ← tagAttrs (cs.length + 1) (cs.drop name.length)
  let inside := cs.take (cs.length - rest.length - 1)
  return (String.ofList (lowerName name), attrs, inside.getLast? = some '/', rest)

/-! ## Comments and declarations -/

def cutComment : List Char → List Char
  | '!' :: '-' :: '-' :: read => read
  | '-' :: '-' :: read => read
  | '-' :: read => read
  | read => read

/-- The text of a comment after its opening, and what follows it. What is already read of it is
given in reverse, with the number of dashes at its end and whether it has only these. -/
def commentBody (dashes : Nat) (beginning : Bool) (read : List Char) :
    List Char → List Char × List Char
  | [] => ((cutComment read).reverse, [])
  | c :: cs =>
      if c = '-' then commentBody (dashes + 1) beginning (c :: read) cs
      else if c = '>' && (dashes ≥ 2 || beginning) then ((read.drop 2).reverse, cs)
      else if c = '!' && dashes ≥ 2 && cs.head? = some '>' then ((read.drop 2).reverse, cs.drop 1)
      else commentBody 0 false (c :: read) cs

def upToBracket (cs : List Char) : List Char × List Char :=
  (cs.takeWhile (· ≠ '>'), (cs.dropWhile (· ≠ '>')).drop 1)

def sectionEnd : List Char → List Char × List Char
  | [] => ([], [])
  | ']' :: ']' :: '>' :: rest => ([], rest)
  | c :: cs =>
      let more := sectionEnd cs
      (c :: more.1, more.2)

def endsInside (word : String) (cs : List Char) : Bool :=
  decide (cs.length < word.length) && (word.toList.take cs.length == cs)

def declaration (sections : Bool) (cs : List Char) : Token × List Char :=
  match cs with
  | [] => (.comment "", [])
  | '-' :: '-' :: rest =>
      let body := commentBody 0 true [] rest
      (.comment (commentData body.1), body.2)
  | cs =>
      let upper := (cs.take 7).map Char.toUpper
      if byteLength (cs.take 2) < 2 then (.comment (commentData cs), [])
      else if upper == "DOCTYPE".toList then
        let body := upToBracket ((cs.drop 7).dropWhile isSpace)
        (.doctype (textData body.1), body.2)
      else if endsInside "DOCTYPE" (cs.map Char.toUpper) then (.comment "", [])
      else if sections && "[CDATA[".toList.isPrefixOf cs then
        let body := sectionEnd (cs.drop 7)
        (.text (String.ofList (unescape false (replaceNul (plainLineEnds body.1)))), body.2)
      else if sections && endsInside "[CDATA[" cs then (.comment "", [])
      else
        let body := upToBracket cs
        (.comment (commentData body.1), body.2)

/-! ## The next token -/

def beginsMarkup : List Char → Bool
  | '<' :: c :: _ => c.isAlpha || c == '/' || c == '!' || c == '?'
  | _ => false

def plainText : List Char → List Char × List Char
  | [] => ([], [])
  | c :: cs =>
      if beginsMarkup (c :: cs) then ([], c :: cs)
      else
        let more := plainText cs
        (c :: more.1, more.2)

def markup (sections : Bool) (cs : List Char) : Token × Source :=
  match cs with
  | '<' :: '/' :: [] => (.text "</", ⟨[], none⟩)
  | '<' :: '/' :: '>' :: rest => (.comment "", ⟨rest, none⟩)
  | '<' :: '/' :: c :: rest =>
      if c.isAlpha then
        match tag (c :: rest) with
        | some (name, _, _, rest) => (.closing name, ⟨rest, none⟩)
        | none => (.done, ⟨[], none⟩)
      else
        let body := upToBracket (c :: rest)
        (.comment (commentData body.1), ⟨body.2, none⟩)
  | '<' :: '!' :: rest =>
      let token := declaration sections rest
      (token.1, ⟨token.2, none⟩)
  | '<' :: '?' :: rest =>
      let body := upToBracket ('?' :: rest)
      (.comment (commentData body.1), ⟨body.2, none⟩)
  | _ :: rest =>
      match tag rest with
      | some (name, attrs, selfClosing, rest) =>
          (.opening name attrs selfClosing,
            ⟨rest, if rawElements.contains name then some name else none⟩)
      | none => (.done, ⟨[], none⟩)
  | [] => (.done, ⟨[], none⟩)

def ordinary (sections : Bool) (cs : List Char) : Token × Source :=
  match cs with
  | [] => (.done, ⟨[], none⟩)
  | cs =>
      if beginsMarkup cs then markup sections cs
      else
        let text := plainText cs
        (.text (textData text.1), ⟨text.2, none⟩)

def Source.next (source : Source) (sections : Bool) : Token × Source :=
  match source.raw with
  | none => ordinary sections source.rest
  | some name =>
      let text := rawText name source.rest
      if text.1.isEmpty then ordinary sections text.2
      else (.text (rawData name text.1), ⟨text.2, none⟩)

end PageBinding.Markup
