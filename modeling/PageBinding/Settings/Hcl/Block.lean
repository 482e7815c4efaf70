import PageBinding.Settings.Hcl.Tree
import PageBinding.Text.Replace

/-!
Trees of settings in blocks, read from the usual form.
-/
namespace PageBinding.Settings.Hcl.Block

def scan : Reading Token :=
  Reading.scan false

def failAt {α : Type} (t : Token) (e : TreeError) : Reading α :=
  Reading.fail (.located t.position e)

def keyOf (t : Token) : Key where
  name := if t.kind = .text then quotedText true t.text else String.ofList t.text
  position := t.position

/-- Reads the keys of an item, up to the token after them, and tells what is wrong with that. -/
def keys : (fuel : Nat) → List Token → Reading (List Token × Option Stop)
  | 0, found => return (found.reverse, some .ended)
  | fuel + 1, found => do
      let t ← scan
      let failed (e : TreeError) := some (Stop.failed (.located t.position e))
      match t.kind with
      | .stop => return (found.reverse, some .ended)
      | .assign =>
          match found with
          | [] => return ([], failed .noKeys)
          | [_] => return (found, none)
          | _ => return ([], failed (.nestedObject t.kind))
      | .leftBrace =>
          return (found.reverse, if found.isEmpty then failed (.expectedKey t.kind) else none)
      | .name | .text => keys fuel (t :: found)
      | .illegal => return (found.reverse, failed .illegal)
      | kind => return (found.reverse, failed (.expectedItem kind))

mutual

/-- Reads items up to the end, or up to the brace that closes an object. The items before one that
fails are kept. -/
def items (inObject : Bool) : (fuel : Nat) → List Item → Reading (List Item × Option TreeError)
  | 0, found => return (found.reverse, none)
  | fuel + 1, found => do
      if inObject then
        let t ← scan
        Reading.unscan
        if t.kind = .rightBrace then return (found.reverse, none)
      match ← Reading.attempt (item fuel) with
      | .error .ended => return (found.reverse, none)
      | .error (.failed e) => return (found.reverse, some e)
      | .ok i =>
          if (← scan).kind ≠ .comma then Reading.unscan
          items inObject fuel (i :: found)

/-- Reads an item. Keys without a value are a failure of their own, also before the brace that
closes an object. -/
def item : (fuel : Nat) → Reading Item
  | 0 => throw .ended
  | fuel + 1 => do
      let named ← keys ((← get).scanner.rest.length + 2) []
      let found := named.1
      if let some stop := named.2 then
        let closes := (← get).token.kind = .rightBrace
        if found.isEmpty || !(closes || stop = .ended) then throw stop
        if closes then modify fun r => { r with token := { r.token with kind := .stop } }
      let t := (← get).token
      let value ← match t.kind with
        | .assign => value fuel
        | .leftBrace => object fuel
        | _ => failAt t (.unfinished (found.map fun k => String.ofList k.text))
      let _ ← scan
      Reading.unscan
      return (found.map keyOf, value)

def value : (fuel : Nat) → Reading Node
  | 0 => throw .ended
  | fuel + 1 => do
      let t ← scan
      match t.kind with
      | .integer | .float | .bool | .text | .heredoc => return .literal t.position (literal false t)
      | .leftBrace => object fuel
      | .leftBracket => list t.position false [] fuel
      | .stop => throw .ended
      | _ => failAt t (.unknownToken t)

/-- Reads an object after its opening brace. A failure at a closing brace is passed over. -/
def object : (fuel : Nat) → Reading Node
  | 0 => throw .ended
  | fuel + 1 => do
      let start := (← get).token.position
      let inner ← items true fuel []
      if let some e := inner.2 then
        if (← get).token.kind ≠ .rightBrace then Reading.fail e
      let t ← scan
      if t.kind ≠ .rightBrace then failAt t (.openObject t.kind)
      return .object start inner.1

def list (start : Position) (needsComma : Bool) (found : List Node) : (fuel : Nat) → Reading Node
  | 0 => throw .ended
  | fuel + 1 => do
      let t ← scan
      if needsComma && t.kind ≠ .comma && t.kind ≠ .rightBracket then
        failAt t (.missingComma t.kind)
      match t.kind with
      | .bool | .integer | .float | .text | .heredoc =>
          list start true (.literal t.position (literal false t) :: found) fuel
      | .comma =>
          let _ ← scan
          Reading.unscan
          list start false found fuel
      | .leftBrace =>
          match ← Reading.attempt (object fuel) with
          | .ok o => list start true (o :: found) fuel
          | .error (.failed e) => failAt t (.inObject e)
          | .error .ended => throw .ended
      | .leftBracket =>
          match ← Reading.attempt (list t.position false [] fuel) with
          | .ok l => list start false (l :: found) fuel
          | .error (.failed e) => failAt t (.inList e)
          | .error .ended => throw .ended
      | .rightBracket => return .list start found.reverse
      | kind => failAt t (.badElement kind)

end

def parse (text : List Char) : Except TreeError (List Item) :=
  let text := Text.replaceAt ['\r', '\n'] ['\n'] 0 text
  let all : Reading (List Item) := do
    let found ← items false (5 * text.length + 10) []
    if let some e := found.2 then Reading.fail e
    return found.1
  Reading.run all text fun p f => .located p (.fault f)

end PageBinding.Settings.Hcl.Block
