import PageBinding.Settings.Hcl.Tree

/-!
Trees of settings in blocks, read from the form of JSON. Nothing in them has a place.

Objects in objects stand for blocks with several keys, and objects in lists for several blocks.
-/
namespace PageBinding.Settings.Hcl.Json

def scan : Reading Token :=
  Reading.scan true

def keys : (fuel : Nat) → List Key → Reading (List Key)
  | 0, _ => throw .ended
  | fuel + 1, found => do
      let t ← scan
      match t.kind with
      | .stop => throw .ended
      | .text => keys fuel (⟨quotedText false t.text, {}⟩ :: found)
      | .colon =>
          if found.isEmpty then Reading.fail (.expectedText t.kind)
          return found.reverse
      | .illegal => Reading.fail .illegal
      | kind => Reading.fail (.expectedText kind)

mutual

def members : (fuel : Nat) → List Item → Reading (List Item × Option TreeError)
  | 0, found => return (found.reverse, none)
  | fuel + 1, found => do
      match ← Reading.attempt (member fuel) with
      | .error .ended => return (found.reverse, none)
      | .error (.failed e) => return (found.reverse, some e)
      | .ok m =>
          if (← scan).kind ≠ .comma then return ((m :: found).reverse, none)
          members fuel (m :: found)

def member : (fuel : Nat) → Reading Item
  | 0 => throw .ended
  | fuel + 1 => do
      let named ← keys ((← get).scanner.rest.length + 2) []
      return (named, ← value fuel)

def value : (fuel : Nat) → Reading Node
  | 0 => throw .ended
  | fuel + 1 => do
      let t ← scan
      match t.kind with
      | .integer | .float | .bool | .null | .text => return .literal {} (literal true t)
      | .leftBrace => object fuel
      | .leftBracket => list [] fuel
      | .stop => throw .ended
      | _ => Reading.fail (.unknownValue t)

/-- Reads an object after its opening brace. A failure at a closing brace is passed over. -/
def object : (fuel : Nat) → Reading Node
  | 0 => throw .ended
  | fuel + 1 => do
      let inner ← members fuel []
      if let some e := inner.2 then
        if (← get).token.kind ≠ .rightBrace then Reading.fail e
      return .object {} inner.1

/-- Reads the further elements of a list. Truth values and inner lists leave nothing behind. -/
def list (found : List Node) : (fuel : Nat) → Reading Node
  | 0 => throw .ended
  | fuel + 1 => do
      let t ← scan
      match t.kind with
      | .integer | .float | .text => list (.literal {} (literal true t) :: found) fuel
      | .comma | .bool | .leftBracket => list found fuel
      | .leftBrace => list ((← object fuel) :: found) fuel
      | .rightBracket => return .list {} found.reverse
      | kind => Reading.fail (.badElement kind)

end

/-! ## Blocks -/

def objects? (nodes : List Node) : Bool :=
  !nodes.isEmpty && nodes.all fun n => n matches .object ..

mutual

def flatItems : (fuel : Nat) → List Item → List Item
  | 0, items => items
  | fuel + 1, items =>
      (items.flatMap (spread fuel)).map fun i => (i.1, flatValue fuel i.2)

/-- The blocks that an item stands for: one for each inner object, if it has nothing else. -/
def spread : (fuel : Nat) → Item → List Item
  | 0, item => [item]
  | fuel + 1, (keys, .object p inner) =>
      if objects? (inner.map Prod.snd) then
        inner.flatMap fun i => spread fuel (keys ++ i.1, i.2)
      else [(keys, .object p inner)]
  | fuel + 1, (keys, .list p inner) =>
      if objects? inner then inner.flatMap fun n => spread fuel (keys, n)
      else [(keys, .list p inner)]
  | _, item => [item]

def flatValue : (fuel : Nat) → Node → Node
  | 0, node => node
  | fuel + 1, .object p items => .object p (flatItems fuel items)
  | fuel + 1, .list p items => .list p (items.map (flatValue fuel))
  | _, node => node

end

def parse (text : List Char) : Except TreeError (List Item) :=
  let fuel := 5 * text.length + 10
  let all : Reading (List Item) := do
    let t ← scan
    if t.kind ≠ .leftBrace then throw .ended
    match ← object fuel with
    | .object _ items => return flatItems fuel items
    | _ => return []
  Reading.run all text .jsonFault

end PageBinding.Settings.Hcl.Json
