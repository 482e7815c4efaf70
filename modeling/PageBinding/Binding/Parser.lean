import PageBinding.Binding.Accessor
import PageBinding.Program.Printer
import PageBinding.Store.Basic

/-!
Reading the two sides of a binding. Reading a side may add setup statements to the program: an
accessor in a value is looked up and read before the assignment.
-/
namespace PageBinding.Binding

structure Setting where
  text : RawText
  context : Int
  global : Int
  side : Side
  stop : Nat

structure Progress where
  rest : List Token
  setup : List Stmt
  warnings : List Nat

abbrev Parse := EStateM Fault Progress

/-! ## Tokens -/

def peek (s : Setting) : Parse Token := do
  return nextToken s.stop (← get).rest

def advance : Parse Unit :=
  modify fun p => { p with rest := p.rest.drop 1 }

def take (s : Setting) : Parse Token := do
  let t ← peek s
  advance
  return t

def expect (s : Setting) (kind : Token.Kind) (what : String) : Parse Token := do
  let t ← take s
  if t.kind = kind then return t else throw (t.fault (.expected what t))

def expectEnd (s : Setting) (what : String) : Parse Unit := do
  let t ← peek s
  if t.kind = .eof then return else throw (t.fault (.unexpectedAfter t what))

def reading {α : Type} (read : TokenReader α) : Parse α := do
  let p ← get
  match read p.rest with
  | .error fault => throw fault
  | .ok (a, rest) =>
      set { p with rest }
      return a

/-! ## Setup -/

/-- A setup statement that names something; the name ends in the number of the statement. -/
def declare (stem : String) (make : String → Stmt) : Parse Expr := do
  let p ← get
  let name := stem ++ toString p.setup.length
  set { p with setup := p.setup ++ [make name] }
  return .var name

def element (locator : Locator) : Parse Expr :=
  match locator with
  | .self => return .element
  | .find selector whole => declare "el" fun name => .lookup name selector whole

def memberPath (x : Expr) (path : String) : Expr :=
  (Store.keys path).foldl Expr.member x

def readAccessor (s : Setting) (marker : Token) : Parse Expr := do
  let side := if marker.text = "prop" then Side.prop else Side.attr
  if s.side ≠ side then throw (marker.fault (.mixed (marker.text ++ "(...)") s.side))
  let a ← reading (accessor s.text marker.text s.stop)
  let x ← element a.element
  if side = .attr then declare "attr" fun name => .declare name (.attr x a.name)
  else declare "prop" fun name => .declare name (memberPath x a.name)

def readGlobalPath (s : Setting) (marker : Token) : Parse String := do
  let path ← reading (globalPath s.stop)
  if path = "" then modify fun p => { p with warnings := p.warnings ++ [marker.offset] }
  return path

/-! ## Values -/

def keywords : List String :=
  ["true", "false", "null", "undefined", "this"]

def namedValue? (name : String) : Option Expr :=
  if name = "true" then some (.lit "true" (.bool true))
  else if name = "false" then some (.lit "false" (.bool false))
  else if name = "null" then some (.lit "null" .null)
  else if name = "undefined" then some (.lit "undefined" .undefined)
  else if name = "$event" then some .event
  else if name = "$target" then some .target
  else if name = "$element" then some .element
  else none

def binaryOp? (t : Token) : Option (BinaryOp × Nat) :=
  if t.kind = .operator then
    let op := BinaryOp.ofSpelling t.text
    op.precedence?.map fun q => (op, q)
  else none

def unaryOp? (t : Token) : Option UnaryOp :=
  if t.kind = .operator then
    match UnaryOp.ofSpelling t.text with
    | .unknown _ => none
    | op => some op
  else none

def number (t : Token) : Parse Expr :=
  match Number.read t.text.toList with
  | .ok x => return .lit t.text (.number x)
  | .error _ => throw (t.fault (.badNumber t.text))

def string (s : Setting) (t : Token) : Parse Expr :=
  match unquoted s.text t with
  | .ok r => return .lit (Literal.quoteRaw r) (.ofRaw r)
  | .error fault => throw fault

/-- A path whose first name is already known to come next. Before a parenthesis the last name is a
method, and the path is what it is called on. -/
def dataPath (s : Setting) (args : Parse (List Expr)) (start : Token) : Parse Expr := do
  let names ← reading (path s.stop)
  let scope := Scope.bound s.context
  if (← peek s).kind = .leftParen then
    if names.length = 1 then throw (start.fault (.unknownFunction start.text))
    let args ← args
    return .call (.get scope (joinPath names.dropLast)) (names.getLast?.getD "") args
  else return .get scope (joinPath names)

def identifier (s : Setting) (args : Parse (List Expr)) (t : Token) : Parse Expr := do
  match namedValue? t.text with
  | some x =>
      advance
      return x
  | none =>
      let rest := (← get).rest.drop 1
      if (t.text = "attr" || t.text = "prop") && (nextToken s.stop rest).kind = .leftParen then
        readAccessor s t
      else if t.text = "this" then throw (t.fault .misplacedThis)
      else if Side.isGlobalMarker t.text then
        if s.side ≠ .global then throw (t.fault (.mixed t.text s.side))
        advance
        let path ← readGlobalPath s t
        return .get (.fixed s.global) path
      else if Text.startsWith t.text "$" then throw (t.fault (.unknownPlaceholder t.text))
      else dataPath s args t

/-! Expressions nest, so their readers call each other. Each call uses one unit of fuel; a text of
`n` tokens never needs more than `fuelFor n`. -/

def fuelFor (tokens : Nat) : Nat :=
  8 * tokens + 16

mutual

def expr (s : Setting) : (fuel : Nat) → Parse Expr
  | 0 => throw ⟨s.stop, .tooDeep⟩
  | fuel + 1 => do
      let c ← binary s fuel 1
      if (← peek s).kind = .question then
        advance
        let t ← expr s fuel
        let _ ← expect s .colon "':' in conditional expression"
        let e ← expr s fuel
        return .cond c t e
      else return c

def binary (s : Setting) : (fuel : Nat) → (least : Nat) → Parse Expr
  | 0, _ => throw ⟨s.stop, .tooDeep⟩
  | fuel + 1, least => do
      let x ← unary s fuel
      binaryTail s fuel least x

def binaryTail (s : Setting) : (fuel : Nat) → (least : Nat) → Expr → Parse Expr
  | 0, _, _ => throw ⟨s.stop, .tooDeep⟩
  | fuel + 1, least, x => do
      match binaryOp? (← peek s) with
      | none => return x
      | some (op, q) =>
          if q < least then return x
          else
            advance
            let y ← binary s fuel (q + 1)
            binaryTail s fuel least (.binary op x y)

def unary (s : Setting) : (fuel : Nat) → Parse Expr
  | 0 => throw ⟨s.stop, .tooDeep⟩
  | fuel + 1 => do
      match unaryOp? (← peek s) with
      | some op =>
          advance
          let x ← unary s fuel
          return .unary op x
      | none =>
          let x ← primary s fuel
          postfixes s fuel x

def postfixes (s : Setting) : (fuel : Nat) → Expr → Parse Expr
  | 0, _ => throw ⟨s.stop, .tooDeep⟩
  | fuel + 1, x => do
      let t ← peek s
      if t.kind = .dot then
        advance
        let t ← expect s .identifier afterDot
        if t.text = reserved then throw (t.fault .reservedName)
        if (← peek s).kind = .leftParen then
          let args ← args s fuel
          postfixes s fuel (.call x t.text args)
        else postfixes s fuel (.member x t.text)
      else if t.kind = .leftBrack then
        advance
        let i ← expr s fuel
        let _ ← expect s .rightBrack "']'"
        postfixes s fuel (.index x i)
      else if t.kind = .leftParen then throw (t.fault (.notAFunction x.source))
      else return x

def args (s : Setting) : (fuel : Nat) → Parse (List Expr)
  | 0 => throw ⟨s.stop, .tooDeep⟩
  | fuel + 1 => do
      let _ ← expect s .leftParen "'('"
      if (← peek s).kind = .rightParen then
        advance
        return []
      else argsTail s fuel

def argsTail (s : Setting) : (fuel : Nat) → Parse (List Expr)
  | 0 => throw ⟨s.stop, .tooDeep⟩
  | fuel + 1 => do
      let x ← expr s fuel
      let t ← take s
      if t.kind = .comma then
        let xs ← argsTail s fuel
        return x :: xs
      else if t.kind = .rightParen then return [x]
      else throw (t.fault (.argumentEnd t))

def primary (s : Setting) : (fuel : Nat) → Parse Expr
  | 0 => throw ⟨s.stop, .tooDeep⟩
  | fuel + 1 => do
      let t ← peek s
      match t.kind with
      | .number =>
          advance
          number t
      | .string =>
          advance
          string s t
      | .leftParen =>
          advance
          let x ← expr s fuel
          let _ ← expect s .rightParen "')'"
          return .paren x
      | .identifier => identifier s (args s fuel) t
      | .eof => throw (t.fault .operandMissing)
      | _ => throw (t.fault (.unexpected t))

end

def source (s : Setting) : Parse Expr := do
  let x ← expr s (fuelFor (← get).rest.length)
  expectEnd s "value"
  return x

/-! ## Targets -/

def setMemberPath (x : Expr) (path : String) (value : Expr) : Stmt :=
  match memberPath x path with
  | .member y name => .setMember y name value
  | y => .setMember y "" value

def target (s : Setting) : Parse Stmt := do
  let template ← match s.side with
    | .attr => do
        let a ← reading (accessor s.text "attr" s.stop)
        let x ← element a.element
        pure (Stmt.setAttr x a.name .placeholder)
    | .prop => do
        let a ← reading (accessor s.text "prop" s.stop)
        let x ← element a.element
        pure (setMemberPath x a.name .placeholder)
    | .global => do
        let t ← take s
        if !(t.kind = .identifier && Side.isGlobalMarker t.text) then
          throw (t.fault (.notGlobals t))
        let path ← readGlobalPath s t
        pure (Stmt.setProperty (.fixed s.global) path .placeholder)
    | .data => do
        let t ← peek s
        if t.kind ≠ .identifier || Text.startsWith t.text "$" || keywords.contains t.text then
          throw (t.fault (.cannotAssign t))
        let names ← reading (path s.stop)
        pure (Stmt.setProperty (.bound s.context) (joinPath names) .placeholder)
  expectEnd s "assignment target"
  return template

end PageBinding.Binding
