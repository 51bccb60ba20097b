/-
Tables: values by name, in the order in which the names came first.
-/
namespace ScopeChain

abbrev Table (α : Type) := List (String × α)

namespace Table

variable {α : Type}

def put (name : String) (value : α) : Table α → Table α
  | [] => [(name, value)]
  | (n, v) :: rest =>
    if n = name then (n, value) :: rest else (n, v) :: put name value rest

def get? (name : String) (t : Table α) : Option α := (t.find? (·.1 == name)).map (·.2)

theorem get?_put_self (name : String) (value : α) (t : Table α) :
    (t.put name value).get? name = some value := by
  induction t with
  | nil => simp [put, get?]
  | cons entry rest ih =>
    obtain ⟨n, v⟩ := entry
    by_cases h : n = name
    · simp [put, get?, h]
    · simpa [put, get?, h] using ih

theorem get?_put_of_ne {name other : String} (ne : other ≠ name) (value : α) (t : Table α) :
    (t.put name value).get? other = t.get? other := by
  induction t with
  | nil => simp [put, get?, Ne.symm ne]
  | cons entry rest ih =>
    obtain ⟨n, v⟩ := entry
    by_cases h : n = name
    · subst h
      simp [put, get?, Ne.symm ne]
    · by_cases same : n = other
      · subst same
        simp [put, get?, h]
      · simpa [put, get?, h, same] using ih

end Table
end ScopeChain
