import PageBinding.Text.Quoted
import PageBinding.Yaml.Binary
import PageBinding.Yaml.Node
import PageBinding.Yaml.Plain

/-!
The data of a file: a mapping from names to plain data.
-/
namespace PageBinding.Yaml

inductive Complaint
  | duplicateKey (line : Nat) (key : String) (first : Nat)
  | mismatch (line : Nat) (tag : String) (text : Option String) (wanted : String)
  deriving DecidableEq, Repr

inductive LoadError
  | text (cause : SyntaxError)
  | shape (complaints : List Complaint)
  | invalidKey (shown : String)
  | badMerge
  | contradiction (found text tag : String)
  | badBinary
  | selfReference (anchor : String)
  | excessiveAliasing
  deriving DecidableEq, Repr

def excerpt (text : String) : String :=
  if 10 < text.utf8ByteSize then
    " \x60" ++ String.ofList (Text.cutBytes 7 text.toList) ++ "...\x60"
  else " \x60" ++ text ++ "\x60"

def Complaint.message : Complaint → String
  | duplicateKey line key first =>
      "line " ++ toString line ++ ": mapping key " ++ Text.shown key ++ " already defined at line "
        ++ toString first
  | mismatch line tag text wanted =>
      "line " ++ toString line ++ ": cannot unmarshal " ++ tag ++ (text.map excerpt).getD ""
        ++ " into " ++ wanted

def LoadError.message : LoadError → String
  | text cause => "yaml: " ++ cause.message
  | shape complaints =>
      "yaml: unmarshal errors:\n  " ++ Text.joinStrings "\n  " (complaints.map Complaint.message)
  | invalidKey shown => "yaml: invalid map key: " ++ shown
  | badMerge => "yaml: map merge requires map or sequence of maps as the value"
  | contradiction found scalar tag =>
      "yaml: cannot decode " ++ found ++ " \x60" ++ scalar ++ "\x60 as a " ++ tag
  | badBinary => "yaml: !!binary value contains invalid base64 data"
  | selfReference anchor => "yaml: anchor '" ++ anchor ++ "' value contains itself"
  | excessiveAliasing => "yaml: document contains excessive aliasing"

def recordType : String := "map[string]interface \x7b\x7d"

mutual

def literal : Data → String
  | .null => "interface \x7b\x7d(nil)"
  | .string s => Text.shown s
  | .bytes bs => Text.shown (Text.ofBytes bs)
  | .list items => "[]interface \x7b\x7d\x7b" ++ Text.joinStrings ", " (literals items) ++ "\x7d"
  | .record fields =>
      recordType ++ "\x7b" ++ Text.joinStrings ", " (literalFields fields) ++ "\x7d"
  | .table entries =>
      "map[interface \x7b\x7d]interface \x7b\x7d\x7b" ++
        Text.joinStrings ", " (literalEntries entries) ++ "\x7d"
  | .bool b => if b then "true" else "false"
  | .number x => Number.general x
  | .int n => toString n.toInt
  | .uint n => "0x" ++ String.ofList (Nat.toDigits 16 n.toNat)

def literals : List Data → List String
  | [] => []
  | d :: ds => literal d :: literals ds

def literalFields : List (String × Data) → List String
  | [] => []
  | (key, d) :: rest => (Text.shown key ++ ":" ++ literal d) :: literalFields rest

def literalEntries : List (Data × Data) → List String
  | [] => []
  | (key, d) :: rest => (literal key ++ ":" ++ literal d) :: literalEntries rest

end

namespace Node

def line : Node → Nat
  | scalar _ _ _ line => line
  | sequence _ _ line => line
  | mapping _ _ line => line
  | reference _ _ line => line

def scalarTag (d : Dialect) (text : String) (style : Style) (tag : String) : String :=
  if tag ≠ "" && tag ≠ "!" then tag
  else if style ≠ .plain then ScalarKind.string.tag
  else if text = "<<" then "!!merge"
  else (resolve d text).1.tag

def tag (d : Dialect) : Node → String
  | scalar text style tag _ => scalarTag d text style tag
  | sequence _ tag _ => if tag = "" then "!!seq" else tag
  | mapping _ tag _ => if tag = "" then "!!map" else tag
  | reference _ (some target) _ => target.tag d
  | reference _ none _ => ""

def keyText : Node → Nat × String
  | scalar text _ _ _ => (0, text)
  | sequence _ _ _ => (1, "")
  | mapping _ _ _ => (2, "")
  | reference name _ _ => (3, name)

def isMerge : Node → Bool
  | scalar text style tag _ =>
      text = "<<" && (tag = "!!merge" || ((tag = "" || tag = "!") && style = .plain))
  | _ => false

end Node

structure Making where
  complaints : List Complaint := []
  made : Nat := 0
  repeated : Nat := 0
  depth : Nat := 0

/-- The share of nodes from second uses that is allowed among `n` nodes: nearly all of few, and a
tenth of many. -/
def allowedShare (n : Nat) : Float :=
  let low := 400000
  let high := 4000000
  if n ≤ low then 0.99
  else if high ≤ n then 0.10
  else 0.99 - 0.89 * (Float.ofNat (n - low) / Float.ofNat (high - low))

def Making.isExcessive (m : Making) : Bool :=
  100 < m.repeated && 1000 < m.made &&
    allowedShare m.made < Float.ofNat m.repeated / Float.ofNat m.made

abbrev Decode := EStateM LoadError Making

namespace Decode

def complain (c : Complaint) : Decode Unit :=
  modify fun m => { m with complaints := c :: m.complaints }

def count : Decode Unit := do
  modify fun m =>
    { m with made := m.made + 1, repeated := m.repeated + if 0 < m.depth then 1 else 0 }
  if (← get).isExcessive then throw .excessiveAliasing

def again {α : Type} (act : Decode α) : Decode α := do
  modify fun m => { m with depth := m.depth + 1 }
  let result ← act
  modify fun m => { m with depth := m.depth - 1 }
  return result

def binaryTag : String := "!!binary"

def scalar (d : Dialect) (text : String) (style : Style) (tag : String) : Decode Data := do
  let asked := Node.scalarTag d text style tag
  if asked = binaryTag then
    match binary? text with
    | some bytes => return .ofBytes bytes
    | none => throw .badBinary
  match ScalarKind.ofTag? asked with
  | none => return .string text
  | some .string => return .string text
  | some kind =>
      let found := resolve d text
      if found.1 = kind then return found.2
      match kind, found.2 with
      | .float, .int n => return .number (Float.ofInt n.toInt)
      | _, _ => throw (.contradiction found.1.tag text asked)

/-- Complains about every key that stands before another with the same text. Gives whether there
was any. -/
def duplicates : List (Node × Node) → Decode Bool
  | [] => return false
  | (key, _) :: rest => do
      let again := rest.filter fun entry => entry.1.keyText = key.keyText
      for entry in again do
        complain (.duplicateKey entry.1.line key.keyText.2 key.line)
      let later ← duplicates rest
      return later || !again.isEmpty

def checkKeys (d : Dialect) (entries : List (Node × Node)) : Decode Bool :=
  if d.uniqueKeys then duplicates entries else return false

def sameKey : Data → Data → Bool
  | .null, .null => true
  | .bool a, .bool b => a == b
  | .string a, .string b => a == b
  | .bytes a, .bytes b => a == b
  | .number a, .number b => a == b
  | .int a, .int b => a == b
  | .uint a, .uint b => a == b
  | _, _ => false

def isCollection : Data → Bool
  | .list _ | .record _ | .table _ => true
  | _ => false

def put (key value : Data) : List (Data × Data) → List (Data × Data)
  | [] => [(key, value)]
  | entry :: rest =>
      if sameKey key entry.1 then (key, value) :: rest else entry :: put key value rest

abbrev Taken := Option (List Data)

abbrev Entries := List (Data × Data) × Taken

def isTaken (taken : Taken) (key : Data) : Bool :=
  taken.any fun keys => keys.any (sameKey key)

def hasTextKeys (d : Dialect) (entries : List (Node × Node)) : Bool :=
  entries.all fun entry => entry.1.tag d = ScalarKind.string.tag || entry.1.tag d = "!!merge"

def textKey (d : Dialect) : Node → Decode (Option Data)
  | .scalar text style tag _ => do
      count
      match ← scalar d text style tag with
      | .null => return none
      | x => return some (if tag = binaryTag then x else .string text)
  | .sequence _ tag line => do
      count
      complain (.mismatch line (if tag = "" then "!!seq" else tag) none "string")
      return none
  | .mapping entries tag line => do
      count
      if !(← checkKeys d entries) then
        complain (.mismatch line (if tag = "" then "!!map" else tag) none "string")
      return none
  | .reference name none _ => throw (.selfReference name)
  | .reference _ (some target) _ => do
      count
      again (textKey d target)

def fieldsOf (entries : List (Data × Data)) : List (String × Data) :=
  entries.map fun entry => (entry.1.shown, entry.2)

mutual

def node (d : Dialect) (n : Node) : Decode (Option Data) := do
  match n with
  | .scalar text style tag _ =>
      count
      return some (← scalar d text style tag)
  | .sequence items _ _ =>
      count
      return some (.list (← all d items))
  | .mapping entries _ _ =>
      count
      if ← checkKeys d entries then return none
      let done ← mapping d (hasTextKeys d entries) ([], none) entries
      if hasTextKeys d entries then return some (.record (fieldsOf done.1))
      else return some (.table done.1)
  | .reference name none _ => throw (.selfReference name)
  | .reference _ (some target) _ =>
      count
      again (node d target)
  termination_by (sizeOf n, 0)

def all (d : Dialect) (ns : List Node) : Decode (List Data) := do
  match ns with
  | [] => return []
  | n :: rest =>
      match ← node d n with
      | some x => return x :: (← all d rest)
      | none => all d rest
  termination_by (sizeOf ns, 0)

def mapping (d : Dialect) (texts : Bool) (done : Entries) (entries : List (Node × Node)) :
    Decode Entries := do
  let own ← ownEntries d texts done entries
  if d.uniqueKeys && (entries.any fun entry => entry.1.isMerge) then
    let keys ← match own.2 with
      | some keys => pure keys
      | none => ownKeys d entries
    let all ← askedEntries d texts (own.1, some keys) entries
    return (all.1, if done.2.isSome then all.2 else none)
  else return own
  termination_by (sizeOf entries, 1)

def ownKeys (d : Dialect) (entries : List (Node × Node)) : Decode (List Data) := do
  match entries with
  | [] => return []
  | (key, _) :: rest =>
      match ← node d key with
      | some k => return k :: (← ownKeys d rest)
      | none => ownKeys d rest
  termination_by (sizeOf entries, 0)

/-- Entries with those written that a mapping writes itself. Where entries replace earlier ones,
those that the mapping asks for are written in their places. -/
def ownEntries (d : Dialect) (texts : Bool) (done : Entries) (entries : List (Node × Node)) :
    Decode Entries := do
  match entries with
  | [] => return done
  | (key, value) :: rest =>
      if key.isMerge then
        let done ← if d.uniqueKeys then pure done else asked d texts done value
        ownEntries d texts done rest
      else
        match ← (if texts then textKey d key else node d key) with
        | none => ownEntries d texts done rest
        | some k =>
            if isTaken done.2 k then ownEntries d texts done rest
            else
              if isCollection k then throw (.invalidKey (literal k))
              let taken := done.2.map (k :: ·)
              match ← node d value with
              | some v => ownEntries d texts (put k v done.1, taken) rest
              | none => ownEntries d texts (done.1, taken) rest
  termination_by (sizeOf entries, 0)

def askedEntries (d : Dialect) (texts : Bool) (done : Entries) (entries : List (Node × Node)) :
    Decode Entries := do
  match entries with
  | [] => return done
  | (key, value) :: rest =>
      if key.isMerge then asked d texts done value else askedEntries d texts done rest
  termination_by (sizeOf entries, 0)

def asked (d : Dialect) (texts : Bool) (done : Entries) (n : Node) : Decode Entries := do
  match n with
  | .sequence items _ _ => askedAll d texts done items
  | n => askedOne d texts done n
  termination_by (sizeOf n, 1)

def askedOne (d : Dialect) (texts : Bool) (done : Entries) (n : Node) : Decode Entries := do
  match n with
  | .mapping entries _ _ =>
      count
      if ← checkKeys d entries then return done
      mapping d texts done entries
  | .reference name none _ => throw (.selfReference name)
  | .reference _ (some (.mapping entries _ _)) _ =>
      count
      again do
        count
        if ← checkKeys d entries then return done
        mapping d texts done entries
  | _ => throw .badMerge
  termination_by (sizeOf n, 0)

/-- Entries with those of the mappings that some nodes are. Of two entries with one key, that of
the earlier mapping counts. -/
def askedAll (d : Dialect) (texts : Bool) (done : Entries) (ns : List Node) : Decode Entries := do
  match ns with
  | [] => return done
  | n :: rest =>
      if d.uniqueKeys then
        let first ← askedOne d texts done n
        askedAll d texts first rest
      else
        let later ← askedAll d texts done rest
        askedOne d texts later n
  termination_by (sizeOf ns, 0)

end

def top (d : Dialect) (n : Node) : Decode (List (String × Data)) := do
  count
  count
  match n with
  | .mapping entries _ _ =>
      if ← checkKeys d entries then return []
      let done ← mapping d true ([], none) entries
      return fieldsOf done.1
  | .scalar text style tag line =>
      match ← scalar d text style tag with
      | .null => return []
      | _ =>
          complain (.mismatch line (Node.scalarTag d text style tag) (some text) recordType)
          return []
  | .sequence _ _ line =>
      complain (.mismatch line (n.tag d) none recordType)
      return []
  | .reference name _ _ => throw (.selfReference name)

end Decode

def load (d : Dialect) (text : String) : Except LoadError (List (String × Data)) :=
  match parse d text with
  | .error e => .error (.text e)
  | .ok none => .ok []
  | .ok (some root) =>
      match EStateM.run (Decode.top d root) {} with
      | .error e _ => .error e
      | .ok fields made =>
          if made.complaints.isEmpty then .ok fields else .error (.shape made.complaints.reverse)

end PageBinding.Yaml
