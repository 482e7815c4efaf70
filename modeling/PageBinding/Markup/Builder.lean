import PageBinding.Markup.Vocabulary

/-!
A page while it is being read: the nodes made so far, which elements are open, and which formatting
is active.

Nodes are known by number, so that one can be moved while it is open. Number 0 is the document.
-/
namespace PageBinding.Markup

inductive Shape
  | document
  | text (data : String)
  | comment (data : String)
  | doctype (name : String) (attrs : List Attr)
  | element (name : String) (space : String) (attrs : List (ElementAttr space))
  deriving Inhabited

structure Item where
  shape : Shape
  parent : Option Nat := none
  children : List Nat := []
  deriving Inhabited

inductive Mode
  | initial
  | beforeHtml
  | beforeHead
  | inHead
  | afterHead
  | inBody
  | text
  | inTable
  | inCaption
  | inColumnGroup
  | inTableBody
  | inRow
  | inCell
  | inSelect
  | inSelectInTable
  | inTemplate
  | afterBody
  | inFrameset
  | afterFrameset
  | afterAfterBody
  | afterAfterFrameset
  | ignoring
  deriving DecidableEq, Inhabited

structure Builder where
  items : Array Item := #[{ shape := .document }]
  opened : List Nat := []
  formatting : List (Option Nat) := []
  head : Option Nat := none
  form : Option Nat := none
  framesetOk : Bool := true
  old : Bool := false
  fostering : Bool := false
  templates : List Mode := []
  mode : Mode := .initial
  afterText : Mode := .inBody
  notRaw : Bool := false
  deriving Inhabited

abbrev Build := StateM Builder

namespace Builder

/-! ## Nodes -/

def item (b : Builder) (id : Nat) : Item :=
  (b.items[id]?).getD default

def name (b : Builder) (id : Nat) : String :=
  match (b.item id).shape with
  | .element name _ _ => name
  | _ => ""

def space (b : Builder) (id : Nat) : String :=
  match (b.item id).shape with
  | .element _ space _ => space
  | _ => ""

def attrs (b : Builder) (id : Nat) : List Attr :=
  match (b.item id).shape with
  | .element _ _ attrs => attrs.map ElementAttr.attr
  | _ => []

def special (b : Builder) (id : Nat) : Bool :=
  isSpecial (b.space id) (b.name id)

def top (b : Builder) : Nat :=
  b.opened.headD 0

def topName (b : Builder) : String :=
  b.name b.top

def hasOpen (b : Builder) (name : String) : Bool :=
  b.opened.any fun id => b.name id = name && b.space id = ""

/-! ## Scopes -/

/-- The innermost open element with one of some names that a search reaches, and the elements
around it. -/
def search (b : Builder) (scope : Scope) (names : List String) :
    List Nat → Option (Nat × List Nat)
  | [] => none
  | id :: around =>
      if b.space id = "" && names.contains (b.name id) then some (id, around)
      else if scope.stopsAt (b.space id) (b.name id) then none
      else b.search scope names around

def inScope (b : Builder) (scope : Scope) (names : List String) : Bool :=
  (b.search scope names b.opened).isSome

end Builder

namespace Build

open Builder

/-! ## Nodes -/

def create (shape : Shape) : Build Nat := do
  let b ← get
  set { b with items := b.items.push { shape } }
  return b.items.size

def changeItem (id : Nat) (f : Item → Item) : Build Unit :=
  modify fun b => { b with items := b.items.modify id f }

def detach (id : Nat) : Build Unit := do
  match ((← get).item id).parent with
  | none => return
  | some parent =>
      changeItem parent fun i => { i with children := i.children.erase id }
      changeItem id fun i => { i with parent := none }

def append (parent id : Nat) : Build Unit := do
  changeItem parent fun i => { i with children := i.children ++ [id] }
  changeItem id fun i => { i with parent := some parent }

def insertBefore (parent id child : Nat) : Build Unit := do
  changeItem parent fun i =>
    { i with children := i.children.takeWhile (· ≠ child) ++ id :: i.children.dropWhile (· ≠ child) }
  changeItem id fun i => { i with parent := some parent }

def extendText (id : Nat) (data : String) : Build Bool := do
  match ((← get).item id).shape with
  | .text before =>
      changeItem id fun i => { i with shape := .text (before ++ data) }
      return true
  | _ => return false

def clone (id : Nat) : Build Nat := do
  create ((← get).item id).shape

/-! ## Adding -/

def shouldFoster : Build Bool := do
  let b ← get
  return b.fostering && tableStructure.contains b.topName

def nodeBefore (children : List Nat) (child : Nat) : Option Nat :=
  (children.takeWhile (· ≠ child)).getLast?

def foster (id : Nat) : Build Unit := do
  let b ← get
  let upToTable := b.opened.takeWhile fun e => b.name e ≠ "table"
  let table := b.opened.find? fun e => b.name e = "table"
  match upToTable.find? fun e => b.name e = "template" with
  | some template => append template id
  | none =>
      let place (before : Option Nat) (put : Build Unit) : Build Unit := do
        match before, (b.item id).shape with
        | some previous, .text data => if ← extendText previous data then return else put
        | _, _ => put
      match table with
      | none =>
          let parent := b.opened.getLast?.getD 0
          place (b.item parent).children.getLast? (append parent id)
      | some table =>
          match (b.item table).parent with
          | some parent =>
              place (nodeBefore (b.item parent).children table) (insertBefore parent id table)
          | none => append (((b.opened.dropWhile (· ≠ table)).drop 1).headD 0) id

def add (id : Nat) : Build Unit := do
  if ← shouldFoster then foster id else append (← get).top id

def addText (data : String) : Build Unit := do
  if data = "" then return
  if ← shouldFoster then foster (← create (.text data))
  else
    let b ← get
    match (b.item b.top).children.getLast? with
    | some previous =>
        if ← extendText previous data then return
        append b.top (← create (.text data))
    | none => append b.top (← create (.text data))

def addComment (data : String) : Build Unit := do
  add (← create (.comment data))

def enter (id : Nat) : Build Unit := do
  add id
  modify fun b => { b with opened := id :: b.opened }

def addElement (name : String) (attrs : List TagAttr) : Build Unit := do
  enter (← create (.element name "" (attrs.map (·.placed ""))))

def addEmpty (name : String) (attrs : List TagAttr) : Build Unit := do
  addElement name attrs
  modify fun b => { b with opened := b.opened.drop 1 }

/-! ## Closing -/

def pop : Build Unit :=
  modify fun b => { b with opened := b.opened.drop 1 }

def unopen (id : Nat) : Build Unit :=
  modify fun b => { b with opened := b.opened.erase id }

def popUntil (scope : Scope) (names : List String) : Build Bool := do
  let b ← get
  match b.search scope names b.opened with
  | some (_, around) =>
      set { b with opened := around }
      return true
  | none => return false

def closeParagraph : Build Unit := do
  let _ ← popUntil .button ["p"]

def clearTo (names : List String) : Build Unit :=
  modify fun b =>
    match b.opened.dropWhile fun id => !names.contains (b.name id) with
    | [] => b
    | opened => { b with opened }

def closeImplied (except : List String) : Build Unit :=
  modify fun b =>
    { b with
      opened := b.opened.dropWhile fun id =>
        impliedEnds.contains (b.name id) && !except.contains (b.name id) }

/-- The "any other closing tag" rule: closes the innermost element of that name, unless an element
that ends searches stands before it. -/
def closeOther (name : String) : Build Unit :=
  modify fun b =>
    let rec go : List Nat → List Nat
      | [] => b.opened
      | id :: around =>
          if b.name id = name then around
          else if b.special id then b.opened
          else go around
    { b with opened := go b.opened }

/-! ## Formatting -/

def mark : Build Unit :=
  modify fun b => { b with formatting := none :: b.formatting }

def clearToMark : Build Unit :=
  modify fun b => { b with formatting := (b.formatting.dropWhile Option.isSome).drop 1 }

def unformat (id : Nat) : Build Unit :=
  modify fun b => { b with formatting := b.formatting.erase (some id) }

def reopenFormatting : Build Unit := do
  let b ← get
  let isPending : Option Nat → Bool
    | none => false
    | some id => !b.opened.contains id
  let pending := b.formatting.takeWhile isPending
  let kept := b.formatting.dropWhile isPending
  let clones ← pending.reverse.filterMap id |>.mapM fun id => do
    let copy ← clone id
    enter copy
    return some copy
  modify fun b => { b with formatting := clones.reverse ++ kept }

/-- Whether two lists of attributes are of one length and the second has all of the first. -/
def sameAttrs (xs ys : List Attr) : Bool :=
  xs.length == ys.length && xs.all fun x => ys.contains x

def addFormatting (name : String) (attrs : List TagAttr) : Build Unit := do
  addElement name attrs
  let b ← get
  let attrs := attrs.map fun a => (a.placed "").attr
  let recent := b.formatting.takeWhile Option.isSome
  let isSame : Option Nat → Bool
    | none => false
    | some id => b.space id = "" && b.name id = name && sameAttrs (b.attrs id) attrs
  let rec keep : Nat → List (Option Nat) → List (Option Nat)
    | _, [] => []
    | seen, e :: rest =>
        if isSame e then
          if seen ≥ 2 then keep seen rest else e :: keep (seen + 1) rest
        else e :: keep seen rest
  modify fun b =>
    { b with formatting := some b.top :: keep 0 recent ++ b.formatting.drop recent.length }

/-! ## Misnested formatting -/

/-- Moves up from a block to a formatting element: the active elements between them are copied,
each around what was moved before, and the others are closed. The position of the node last looked
at is given; the answer is the outermost node moved and where the formatting element goes among
the active ones, counted from the first. -/
def adoptBetween (formatting block : Nat) :
    (position : Nat) → (count : Nat) → (last : Nat) → (bookmark : Nat) → Build (Nat × Nat)
  | 0, _, last, bookmark => return (last, bookmark)
  | position + 1, count, last, bookmark => do
      let b ← get
      let node := (b.opened.reverse[position]?).getD formatting
      if node = formatting then return (last, bookmark)
      let active := b.formatting.reverse.idxOf? (some node)
      match active with
      | none =>
          unopen node
          adoptBetween formatting block position (count + 1) last bookmark
      | some index =>
          if count + 1 > 3 then
            unformat node
            adoptBetween formatting block position (count + 1) last
              (if index ≤ bookmark then bookmark - 1 else bookmark)
          else
            let copy ← clone node
            modify fun b =>
              { b with
                formatting := b.formatting.map fun e => if e = some node then some copy else e
                opened := b.opened.map fun e => if e = node then copy else e }
            let bookmark := if last = block then index + 1 else bookmark
            detach last
            append copy last
            adoptBetween formatting block position (count + 1) copy bookmark

/-- Closes a formatting element although blocks inside it are open; a number of times at most. -/
def adopt (name : String) : (times : Nat) → Build Unit
  | 0 => return
  | times + 1 => do
      let b ← get
      let recent := (b.formatting.takeWhile Option.isSome).filterMap id
      match recent.find? fun id => b.name id = name with
      | none => closeOther name
      | some formatting =>
          if !b.opened.contains formatting then unformat formatting
          else if !b.inScope .ordinary [name] then return
          else
            let inside := (b.opened.takeWhile (· ≠ formatting)).reverse
            match inside.find? b.special with
            | none =>
                modify fun b =>
                  { b with opened := (b.opened.dropWhile (· ≠ formatting)).drop 1 }
                unformat formatting
            | some block =>
                let stack := b.opened.reverse
                let above := ((b.opened.dropWhile (· ≠ formatting)).drop 1).headD 0
                let bookmark := (b.formatting.reverse.idxOf? (some formatting)).getD 0
                let position := (stack.idxOf? block).getD 0
                let (last, bookmark) ← adoptBetween formatting block position 0 block bookmark
                detach last
                if tableStructure.contains (b.name above) then foster last else append above last
                let copy ← clone formatting
                for child in ((← get).item block).children do
                  detach child
                  append copy child
                append block copy
                modify fun b =>
                  let active := b.formatting.reverse
                  let old := active.idxOf? (some formatting)
                  let bookmark := if old.any (· < bookmark) then bookmark - 1 else bookmark
                  let active := (active.erase (some formatting)).insertIdx bookmark (some copy)
                  let stack := b.opened.reverse.erase formatting
                  let place := (stack.idxOf? block).getD 0 + 1
                  { b with
                    formatting := active.reverse
                    opened := (stack.insertIdx place copy).reverse }
                adopt name times

def closeFormatting (name : String) : Build Unit := do
  let b ← get
  if b.topName = name && !b.formatting.contains (some b.top) then pop
  else adopt name 8

/-! ## Modes -/

def setMode (mode : Mode) : Build Unit :=
  modify fun b => { b with mode }

def noFrameset : Build Unit :=
  modify fun b => { b with framesetOk := false }

def fittingMode (b : Builder) : List Nat → Mode
  | [] => b.mode
  | id :: around =>
      match b.name id with
      | "select" =>
          match around.find? fun e => ["template", "table"].contains (b.name e) with
          | some e => if b.name e = "table" then .inSelectInTable else .inSelect
          | none => .inSelect
      | "td" => .inCell
      | "th" => .inCell
      | "tr" => .inRow
      | "tbody" => .inTableBody
      | "thead" => .inTableBody
      | "tfoot" => .inTableBody
      | "caption" => .inCaption
      | "colgroup" => .inColumnGroup
      | "table" => .inTable
      | "template" =>
          if b.space id = "" then b.templates.headD .inBody else fittingMode b around
      | "head" => .inHead
      | "body" => .inBody
      | "frameset" => .inFrameset
      | "html" => if b.head.isNone then .beforeHead else .afterHead
      | _ => if around.isEmpty then .inBody else fittingMode b around

def resetMode : Build Unit :=
  modify fun b => { b with mode := fittingMode b b.opened }

def readText : Build Unit :=
  modify fun b => { b with afterText := b.mode, mode := .text }

def closeTemplate : Build Unit := do
  closeImplied []
  modify fun b =>
    let isTemplate (id : Nat) : Bool := b.space id = "" && b.name id = "template"
    { b with opened := (b.opened.dropWhile fun id => !isTemplate id).drop 1 }
  clearToMark
  modify fun b => { b with templates := b.templates.drop 1 }
  resetMode

end Build

end PageBinding.Markup
