import PageBinding.Number.Layout
import PageBinding.Text.Basic
import PageBinding.Text.Bytes

/-!
Plain data: what a data file holds. Unlike the values of a running program, plain data is a tree,
in which nothing is shared.
-/
namespace PageBinding

inductive Data
  | null
  | bool (b : Bool)
  | string (s : String)
  | bytes (bs : List UInt8)
  | number (x : Float)
  | int (n : Int64)
  | uint (n : UInt64)
  | list (items : List Data)
  | record (fields : List (String × Data))
  | table (entries : List (Data × Data))
  deriving Inhabited

namespace Data

def ofBytes (bs : List UInt8) : Data :=
  match Text.ofBytes? bs with
  | some s => string s
  | none => bytes bs

def kindRank : Data → Nat
  | null => 0
  | bool _ => 1
  | int _ => 2
  | uint _ => 3
  | number _ => 4
  | string _ | bytes _ => 5
  | _ => 6

def textBytes? : Data → Option (List UInt8)
  | string s => some (Text.toBytes s)
  | bytes bs => some bs
  | _ => none

def keyBefore (a b : Data) : Bool :=
  match a, b with
  | int m, int n => m ≤ n
  | uint m, uint n => m ≤ n
  | number x, number y => x.isNaN || x ≤ y
  | bool p, bool q => !p || q
  | a, b =>
      match a.textBytes?, b.textBytes? with
      | some s, some t => !(t < s)
      | _, _ => a.kindRank ≤ b.kindRank

/-- Bytes between two texts. -/
def enclosed (before after : String) (inside : List UInt8) : List UInt8 :=
  Text.toBytes before ++ inside ++ Text.toBytes after

mutual

/-- Data on one line, in bytes: lists in brackets, mappings with their keys in order. -/
def printed : Data → List UInt8
  | null => Text.toBytes "<nil>"
  | bool b => Text.toBytes (if b then "true" else "false")
  | string s => Text.toBytes s
  | bytes bs => bs
  | number x => Text.toBytes (Number.general x)
  | int n => Text.toBytes (toString n.toInt)
  | uint n => Text.toBytes (toString n.toNat)
  | list items => enclosed "[" "]" (Text.join (Text.toBytes " ") (printedAll items))
  | record fields =>
      let entries := (printedFields fields).mergeSort fun a b => !(b.1 < a.1)
      enclosed "map[" "]" (Text.join (Text.toBytes " ") (entries.map fun e => e.2))
  | table entries =>
      let entries := (printedEntries entries).mergeSort fun a b => keyBefore a.1 b.1
      enclosed "map[" "]" (Text.join (Text.toBytes " ") (entries.map fun e => e.2))

def printedAll : List Data → List (List UInt8)
  | [] => []
  | d :: ds => printed d :: printedAll ds

def printedFields : List (String × Data) → List (String × List UInt8)
  | [] => []
  | (key, d) :: fields => (key, enclosed key ":" [] ++ printed d) :: printedFields fields

def printedEntries : List (Data × Data) → List (Data × List UInt8)
  | [] => []
  | (key, d) :: entries =>
      (key, printed key ++ Text.toBytes ":" ++ printed d) :: printedEntries entries

end

def shown (d : Data) : String :=
  Text.ofBytes d.printed

end Data

end PageBinding
