import PageBinding.Yaml.Token

/-!
The tree of a data file: scalars, sequences and mappings, with anchors resolved.
-/
namespace PageBinding.Yaml

inductive Node
  | scalar (text : String) (style : Style) (tag : String) (line : Nat)
  | sequence (items : List Node) (tag : String) (line : Nat)
  | mapping (entries : List (Node × Node)) (tag : String) (line : Nat)
  | reference (name : String) (target : Option Node) (line : Nat)
  deriving Inhabited

structure Reader where
  tokens : List Token
  problem : Option Finding
  handles : List (String × String) := []
  anchors : List (String × Option Node) := []
  deriving Inhabited

abbrev Read := EStateM Finding Reader

namespace Read

def peek : Read Token := do
  let r ← get
  match r.tokens with
  | t :: _ => return t
  | [] =>
      match r.problem with
      | some e => throw e
      | none => return ⟨.streamEnd, 0⟩

def skip : Read Unit :=
  modify fun r =>
    match r.tokens with
    | ⟨.streamEnd, _⟩ :: _ => r
    | tokens => { r with tokens := tokens.drop 1 }

def failFrom {α : Type} (problem : Problem) (began : Nat) : Read α := do
  throw (.ofTokens problem began (← peek).line)

def emptyNode : Read Node := do
  return .scalar "" .plain "" ((← peek).line + 1)

/-! ## Anchors and tags -/

def usualHandles : List (String × String) :=
  [("!", "!"), ("!!", "tag:yaml.org,2002:")]

def shortTag (tag : String) : String :=
  match Text.dropStart? "tag:yaml.org,2002:".toList tag.toList with
  | some rest => "!!" ++ String.ofList rest
  | none => tag

def fullTag (handle suffix : String) (began : Nat) : Read String := do
  if handle = "" then return shortTag suffix
  match ((← get).handles ++ usualHandles).lookup handle with
  | some start => return shortTag (start ++ suffix)
  | none => failFrom .undefinedHandle began

structure Properties where
  anchor : Option String := none
  tag : Option String := none

def property (p : Properties) (began : Nat) : Read Properties := do
  match (← peek).kind, p.anchor, p.tag with
  | .anchor name, none, _ => skip; return { p with anchor := some name }
  | .tag handle suffix, _, none =>
      skip
      return { p with tag := some (← fullTag handle suffix began) }
  | _, _, _ => return p

def openAnchor (anchor : Option String) : Read Unit :=
  match anchor with
  | none => return
  | some name => modify fun r => { r with anchors := (name, none) :: r.anchors }

def settle (name : String) (node : Node) : List (String × Option Node) → List (String × Option Node)
  | [] => []
  | (key, none) :: rest =>
      if key = name then (key, some node) :: rest else (key, none) :: settle name node rest
  | entry :: rest => entry :: settle name node rest

def closeAnchor (anchor : Option String) (node : Node) : Read Unit :=
  match anchor with
  | none => return
  | some name => modify fun r => { r with anchors := settle name node r.anchors }

/-! ## Nodes -/

def endsBlockPart : TokenKind → Bool
  | .key | .value | .blockEnd => true
  | _ => false

structure Position where
  block : Bool
  bare : Bool

def unwritten (p : Properties) (began : Nat) : Read Node := do
  if p.anchor.isSome || p.tag.isSome then return .scalar "" .plain (p.tag.getD "") (began + 1)
  failFrom .noContent began

mutual

def node (pos : Position) : (fuel : Nat) → Read Node
  | 0 => failFrom .tooDeep 0
  | fuel + 1 => do
      let t ← peek
      match t.kind with
      | .reference name =>
          skip
          match (← get).anchors.lookup name with
          | some target => return .reference name target (t.line + 1)
          | none => throw (.ofTokens (.unknownAnchor name) 0 0)
      | _ =>
          let p ← property {} t.line
          let p ← property p t.line
          openAnchor p.anchor
          let node ← content pos p t.line fuel
          closeAnchor p.anchor node
          return node
  termination_by structural fuel => fuel

def content (pos : Position) (p : Properties) (began : Nat) : (fuel : Nat) → Read Node
  | 0 => failFrom .tooDeep 0
  | fuel + 1 => do
      let t ← peek
      let tag := p.tag.getD ""
      let line := began + 1
      match t.kind with
      | .scalar text style => skip; return .scalar text style tag line
      | .flowSequenceStart => skip; return .sequence (← flowItems t.line true fuel) tag line
      | .flowMappingStart => skip; return .mapping (← flowEntries t.line true fuel) tag line
      | .entry =>
          if pos.bare then return .sequence (← bareItems fuel) tag line
          else unwritten p began
      | .sequenceStart =>
          if pos.block then skip; return .sequence (← blockItems t.line fuel) tag line
          else unwritten p began
      | .mappingStart =>
          if pos.block then skip; return .mapping (← blockEntries t.line fuel) tag line
          else unwritten p began
      | _ => unwritten p began
  termination_by structural fuel => fuel

def blockItems (began : Nat) : (fuel : Nat) → Read (List Node)
  | 0 => failFrom .tooDeep 0
  | fuel + 1 => do
      match (← peek).kind with
      | .entry =>
          skip
          let item ← match (← peek).kind with
            | .entry => emptyNode
            | .blockEnd => emptyNode
            | _ => node ⟨true, false⟩ fuel
          return item :: (← blockItems began fuel)
      | .blockEnd => skip; return []
      | _ => failFrom .noEntry began
  termination_by structural fuel => fuel

def bareItems : (fuel : Nat) → Read (List Node)
  | 0 => failFrom .tooDeep 0
  | fuel + 1 => do
      match (← peek).kind with
      | .entry =>
          skip
          let next := (← peek).kind
          let item ← if next = .entry || endsBlockPart next then emptyNode
            else node ⟨true, false⟩ fuel
          return item :: (← bareItems fuel)
      | _ => return []
  termination_by structural fuel => fuel

def blockEntries (began : Nat) : (fuel : Nat) → Read (List (Node × Node))
  | 0 => failFrom .tooDeep 0
  | fuel + 1 => do
      match (← peek).kind with
      | .key =>
          skip
          let key ← if endsBlockPart (← peek).kind then emptyNode else node ⟨true, true⟩ fuel
          let value ← blockValue fuel
          return (key, value) :: (← blockEntries began fuel)
      | .blockEnd => skip; return []
      | _ => failFrom .noKey began
  termination_by structural fuel => fuel

def blockValue : (fuel : Nat) → Read Node
  | 0 => failFrom .tooDeep 0
  | fuel + 1 => do
      match (← peek).kind with
      | .value =>
          skip
          if endsBlockPart (← peek).kind then emptyNode else node ⟨true, true⟩ fuel
      | _ => emptyNode
  termination_by structural fuel => fuel

def flowItems (began : Nat) (first : Bool) : (fuel : Nat) → Read (List Node)
  | 0 => failFrom .tooDeep 0
  | fuel + 1 => do
      if (← peek).kind = .flowSequenceEnd then skip; return []
      if !first then
        if (← peek).kind = .comma then skip else failFrom .noSequenceEnd began
      let t ← peek
      match t.kind with
      | .flowSequenceEnd => skip; return []
      | .key =>
          skip
          let entry ← flowPair fuel
          return .mapping [entry] "" (t.line + 1) :: (← flowItems began false fuel)
      | _ =>
          let item ← node ⟨false, false⟩ fuel
          return item :: (← flowItems began false fuel)
  termination_by structural fuel => fuel

def flowPair : (fuel : Nat) → Read (Node × Node)
  | 0 => failFrom .tooDeep 0
  | fuel + 1 => do
      let next := (← peek).kind
      let key ← if next = .value || next = .comma || next = .flowSequenceEnd then do
          skip
          emptyNode
        else node ⟨false, false⟩ fuel
      match (← peek).kind with
      | .value =>
          skip
          let next := (← peek).kind
          if next = .comma || next = .flowSequenceEnd then return (key, ← emptyNode)
          return (key, ← node ⟨false, false⟩ fuel)
      | _ => return (key, ← emptyNode)
  termination_by structural fuel => fuel

def flowEntries (began : Nat) (first : Bool) : (fuel : Nat) → Read (List (Node × Node))
  | 0 => failFrom .tooDeep 0
  | fuel + 1 => do
      if (← peek).kind = .flowMappingEnd then skip; return []
      if !first then
        if (← peek).kind = .comma then skip else failFrom .noMappingEnd began
      match (← peek).kind with
      | .flowMappingEnd => skip; return []
      | .key =>
          skip
          let next := (← peek).kind
          let key ← if next = .value || next = .comma || next = .flowMappingEnd then emptyNode
            else node ⟨false, false⟩ fuel
          let value ← flowValue fuel
          return (key, value) :: (← flowEntries began false fuel)
      | _ =>
          let key ← node ⟨false, false⟩ fuel
          let value ← emptyNode
          return (key, value) :: (← flowEntries began false fuel)
  termination_by structural fuel => fuel

def flowValue : (fuel : Nat) → Read Node
  | 0 => failFrom .tooDeep 0
  | fuel + 1 => do
      match (← peek).kind with
      | .value =>
          skip
          let next := (← peek).kind
          if next = .comma || next = .flowMappingEnd then emptyNode
          else node ⟨false, false⟩ fuel
      | _ => emptyNode
  termination_by structural fuel => fuel

end

/-! ## Documents -/

def directives (versions : Nat) : (fuel : Nat) → Read Unit
  | 0 => return
  | fuel + 1 => do
      let t ← peek
      match t.kind with
      | .version major minor =>
          if versions ≠ 0 then failFrom .duplicateVersion 0
          if major ≠ 1 || minor ≠ 1 then failFrom .wrongVersion 0
          skip
          directives (versions + 1) fuel
      | .tagStart handle start =>
          if ((← get).handles.lookup handle).isSome then failFrom .duplicateTag 0
          modify fun r => { r with handles := (handle, start) :: r.handles }
          skip
          directives versions fuel
      | _ => return

def endsDocument : TokenKind → Bool
  | .version _ _ | .tagStart _ _ | .documentStart | .documentEnd | .streamEnd => true
  | _ => false

def document (fuel : Nat) : Read (Option Node) := do
  skip
  match (← peek).kind with
  | .streamEnd => return none
  | .version _ _ | .tagStart _ _ | .documentStart =>
      directives 0 fuel
      if (← peek).kind ≠ .documentStart then failFrom .noDocumentStart 0
      skip
      let root ← if endsDocument (← peek).kind then emptyNode else node ⟨true, false⟩ fuel
      let _ ← peek
      return some root
  | _ =>
      let root ← node ⟨true, false⟩ fuel
      let _ ← peek
      return some root

end Read

def parse (d : Dialect) (text : String) : Except SyntaxError (Option Node) :=
  let found := tokens d text.toList
  let fuel := 4 * found.tokens.length + 16
  match EStateM.run (Read.document fuel) { tokens := found.tokens, problem := found.problem } with
  | .ok root _ => .ok root
  | .error e _ => .error (e.toError d)

end PageBinding.Yaml
