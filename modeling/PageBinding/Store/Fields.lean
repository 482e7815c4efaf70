/-!
Named values, sorted by name.
-/
namespace PageBinding

structure Fields (α : Type) where
  entries : List (String × α)
  deriving Repr, Inhabited

namespace Fields

variable {α : Type}

def empty : Fields α := ⟨[]⟩

def find? (name : String) : List (String × α) → Option α
  | [] => none
  | (key, value) :: rest => if key = name then some value else find? name rest

def insert (name : String) (value : α) : List (String × α) → List (String × α)
  | [] => [(name, value)]
  | (key, old) :: rest =>
      if key = name then (name, value) :: rest
      else if name < key then (name, value) :: (key, old) :: rest
      else (key, old) :: insert name value rest

def get? (fields : Fields α) (name : String) : Option α :=
  find? name fields.entries

def put (fields : Fields α) (name : String) (value : α) : Fields α :=
  ⟨insert name value fields.entries⟩

def ofList (entries : List (String × α)) : Fields α :=
  entries.foldl (fun fields entry => fields.put entry.1 entry.2) empty

def map {β : Type} (f : α → β) (fields : Fields α) : Fields β :=
  ⟨fields.entries.map fun entry => (entry.1, f entry.2)⟩

@[simp]
theorem get?_empty (name : String) : (empty : Fields α).get? name = none := rfl

theorem find?_insert_self (name : String) (value : α) (entries : List (String × α)) :
    find? name (insert name value entries) = some value := by
  fun_induction insert name value entries <;> simp_all [find?]

theorem find?_insert_ne {name other : String} (h : other ≠ name) (value : α)
    (entries : List (String × α)) :
    find? other (insert name value entries) = find? other entries := by
  have h' : name ≠ other := h.symm
  induction entries with
  | nil => simp [insert, find?, h']
  | cons entry rest ih =>
      obtain ⟨key, old⟩ := entry
      by_cases same : key = name
      · subst same
        simp [insert, find?, h']
      · by_cases before : name < key
        · simp [insert, find?, same, before, h']
        · simp [insert, find?, same, before, ih]

@[simp]
theorem get?_put_self (fields : Fields α) (name : String) (value : α) :
    (fields.put name value).get? name = some value :=
  find?_insert_self name value fields.entries

theorem get?_put_ne {name other : String} (h : other ≠ name) (fields : Fields α) (value : α) :
    (fields.put name value).get? other = fields.get? other :=
  find?_insert_ne h value fields.entries

end Fields

end PageBinding
