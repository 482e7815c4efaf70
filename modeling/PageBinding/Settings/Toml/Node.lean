import PageBinding.Number.Layout
import PageBinding.Settings.Toml.Time
import PageBinding.Settings.Toml.Token
import PageBinding.Value.Data

/-!
Tables and what stands in them.
-/
namespace PageBinding.Settings.Toml

inductive Node
  | text (s : String)
  | bool (b : Bool)
  | int (n : Int64)
  | float (x : Float)
  | time (t : Time)
  | list (items : List Node)
  | table (entries : List (String × (Position × Node)))
  | tables (all : List (List (String × (Position × Node))))
  deriving Inhabited

abbrev Entries := List (String × (Position × Node))

namespace Node

def kindNumber : Node → Nat
  | text _ => 0
  | bool _ => 1
  | int _ => 2
  | float _ => 3
  | time _ => 4
  | list _ => 5
  | table _ => 6
  | tables _ => 7

def tablesIn (nodes : List Node) : List Entries :=
  nodes.filterMap fun n =>
    match n with
    | table entries => some entries
    | _ => none

def ofItems (items : List Node) : Node :=
  match items with
  | table _ :: _ => tables (tablesIn items)
  | _ => list items

mutual

def shown : Node → String
  | text s => Text.shown s
  | bool b => if b then "true" else "false"
  | int n => toString n.toInt
  | float x => Number.general x
  | time t => t.parts
  | list [] => "[]interface \x7b\x7d(nil)"
  | list items => "[]interface \x7b\x7d\x7b" ++ String.intercalate ", " (shownItems items) ++ "\x7d"
  | _ => ""

def shownItems : List Node → List String
  | [] => []
  | n :: rest => n.shown :: shownItems rest

end

mutual

def data : Node → Data
  | text s => .string s
  | bool b => .bool b
  | int n => .int n
  | float x => .number x
  | time t => .string t.text
  | list items => .list (dataItems items)
  | table entries => .record (dataEntries entries)
  | tables all => .list (dataTables all)

def dataItems : List Node → List Data
  | [] => []
  | n :: rest => n.data :: dataItems rest

def dataEntries : List (String × (Position × Node)) → List (String × Data)
  | [] => []
  | (key, (_, n)) :: rest => (key, n.data) :: dataEntries rest

def dataTables : List (List (String × (Position × Node))) → List Data
  | [] => []
  | entries :: rest => .record (dataEntries entries) :: dataTables rest

end

end Node

namespace Entries

def put (key : String) (entry : Position × Node) : Entries → Entries
  | [] => [(key, entry)]
  | e :: rest => if e.1 = key then (key, entry) :: rest else e :: put key entry rest

def get? : List String → Entries → Option Node
  | [], entries => some (.table entries)
  | [key], entries => (entries.lookup key).map Prod.snd
  | key :: path, entries =>
      match entries.lookup key with
      | some (_, .table inner) => get? path inner
      | some (_, .tables all) => all.getLast?.bind (get? path)
      | _ => none

/-- Changes the table at a path; of several tables the last one. Tables that are missing are made; a
value in the way of the path is passed over. -/
def update (change : Entries → Entries) : List String → Entries → Entries
  | [], entries => change entries
  | key :: path, entries =>
      match entries.lookup key with
      | none => put key ({}, .table (update change path [])) entries
      | some (p, .table inner) => put key (p, .table (update change path inner)) entries
      | some (p, .tables all) =>
          let last := update change path (all.getLast?.getD [])
          put key (p, .tables (all.dropLast ++ [last])) entries
      | some _ => update change path entries

def putAt (path : List String) (entry : Position × Node) (entries : Entries) : Entries :=
  match path.getLast? with
  | some key => update (put key entry) path.dropLast entries
  | none => entries

def obstacle? : List String → Entries → Option (String × (Position × Node))
  | [], _ => none
  | key :: path, entries =>
      match entries.lookup key with
      | none => none
      | some (_, .table inner) => obstacle? path inner
      | some (_, .tables all) => all.getLast?.bind (obstacle? path)
      | some entry => some (key, entry)

end Entries

end PageBinding.Settings.Toml
