/-
The variables of one scope.

A variable is a name, its value, and its metadata if any was ever supplied.  The variables
of a scope are kept in strictly increasing order of their names, which is the order in
which they are listed, so a scope has one form for what it holds.
-/
import ScopeChain.Value.Key

namespace ScopeChain

structure Entry where
  name : String
  value : Value
  metadata : Option Metadata
  deriving Repr

namespace Entry

/-- Binds a name among sorted entries.  Metadata replaces the earlier metadata of the name
as a whole, and without new metadata the earlier stays. -/
def insert (name : String) (value : Value) (metadata : Option Metadata) :
    List Entry → List Entry
  | [] => [⟨name, value, metadata⟩]
  | e :: rest =>
    if name < e.name then ⟨name, value, metadata⟩ :: e :: rest
    else if name = e.name then ⟨name, value, metadata.or e.metadata⟩ :: rest
    else e :: insert name value metadata rest

theorem name_of_mem_insert {name : String} {value : Value} {metadata : Option Metadata}
    {entries : List Entry} {e : Entry} (h : e ∈ insert name value metadata entries) :
    e.name = name ∨ e ∈ entries := by
  induction entries with
  | nil =>
    simp only [insert, List.mem_singleton] at h
    exact Or.inl (by rw [h])
  | cons d rest ih =>
    simp only [insert] at h
    split at h
    · rcases List.mem_cons.mp h with rfl | h
      · exact Or.inl rfl
      · exact Or.inr h
    · split at h
      · rcases List.mem_cons.mp h with rfl | h
        · exact Or.inl rfl
        · exact Or.inr (List.mem_cons_of_mem _ h)
      · rcases List.mem_cons.mp h with rfl | h
        · exact Or.inr List.mem_cons_self
        · exact (ih h).imp id (List.mem_cons_of_mem _)

/-- Entries are sorted if their names strictly increase. -/
def Sorted (entries : List Entry) : Prop := entries.Pairwise fun d e => d.name < e.name

theorem sorted_insert {entries : List Entry} (h : Sorted entries) (name : String)
    (value : Value) (metadata : Option Metadata) :
    Sorted (insert name value metadata entries) := by
  induction entries with
  | nil => exact List.pairwise_singleton _ _
  | cons d rest ih =>
    obtain ⟨hd, hr⟩ := List.pairwise_cons.mp h
    simp only [insert]
    split
    next lt =>
      refine List.pairwise_cons.mpr ⟨fun e he => ?_, h⟩
      rcases List.mem_cons.mp he with rfl | he
      · exact lt
      · exact String.lt_trans lt (hd e he)
    next nlt =>
      split
      next eq =>
        subst eq
        exact List.pairwise_cons.mpr ⟨hd, hr⟩
      next ne =>
        refine List.pairwise_cons.mpr ⟨fun e he => ?_, ih hr⟩
        rcases name_of_mem_insert he with rfl | he
        · exact Std.lt_of_le_of_ne (String.not_lt.mp nlt) (Ne.symm ne)
        · exact hd e he

/-- A bound name is found with its new value, and with its earlier metadata unless it was
given new. -/
theorem find?_insert_self (entries : List Entry) (name : String) (value : Value)
    (metadata : Option Metadata) (h : Sorted entries) :
    (insert name value metadata entries).find? (·.name == name) =
      some ⟨name, value,
        metadata.or ((entries.find? (·.name == name)).bind (·.metadata))⟩ := by
  induction entries with
  | nil => simp [insert]
  | cons d rest ih =>
    obtain ⟨hd, hr⟩ := List.pairwise_cons.mp h
    simp only [insert]
    split
    next lt =>
      have hne : ∀ e ∈ d :: rest, ¬ (e.name == name) = true := by
        intro e he eq
        have eq : e.name = name := by simpa using eq
        rcases List.mem_cons.mp he with rfl | he
        · exact String.lt_irrefl name (eq ▸ lt)
        · exact String.lt_irrefl name (String.lt_trans lt (eq ▸ hd e he))
      rw [List.find?_eq_none.mpr hne]
      simp
    next =>
      split
      next eq => simp [eq]
      next ne =>
        have hne : (d.name == name) = false := by simpa using Ne.symm ne
        simp [hne, ih hr]

/-- Other names are found as before. -/
theorem find?_insert_of_ne (entries : List Entry) {name other : String} (value : Value)
    (metadata : Option Metadata) (h : other ≠ name) :
    (insert name value metadata entries).find? (·.name == other) =
      entries.find? (·.name == other) := by
  have hne : (name == other) = false := by simpa using Ne.symm h
  induction entries with
  | nil => simp [insert, hne]
  | cons d rest ih =>
    simp only [insert]
    split
    next => simp [List.find?_cons, hne]
    next =>
      split
      next eq =>
        subst eq
        simp [hne]
      next => simp only [List.find?_cons, ih]

end Entry

/-- The variables of a scope. -/
structure Locals where
  entries : List Entry
  sorted : Entry.Sorted entries

namespace Locals

def empty : Locals := ⟨[], List.Pairwise.nil⟩

def set (l : Locals) (name : String) (value : Value) (metadata : Option Metadata) : Locals :=
  ⟨Entry.insert name value metadata l.entries, Entry.sorted_insert l.sorted name value metadata⟩

def find? (l : Locals) (name : String) : Option Entry := l.entries.find? (·.name == name)

def value? (l : Locals) (name : String) : Option Value := (l.find? name).map (·.value)

def metadata? (l : Locals) (name : String) : Option Metadata :=
  (l.find? name).bind (·.metadata)

def defines (l : Locals) (name : String) : Bool := (l.find? name).isSome

def names (l : Locals) : List String := l.entries.map (·.name)

@[simp]
theorem find?_empty (name : String) : empty.find? name = none := rfl

theorem value?_set_self (l : Locals) (name : String) (value : Value)
    (metadata : Option Metadata) : (l.set name value metadata).value? name = some value := by
  simp [value?, find?, set, Entry.find?_insert_self _ _ _ _ l.sorted]

theorem value?_set_of_ne (l : Locals) {name other : String} (value : Value)
    (metadata : Option Metadata) (h : other ≠ name) :
    (l.set name value metadata).value? other = l.value? other := by
  simp [value?, find?, set, Entry.find?_insert_of_ne _ _ _ h]

theorem metadata?_set_self (l : Locals) (name : String) (value : Value)
    (metadata : Option Metadata) :
    (l.set name value metadata).metadata? name = metadata.or (l.metadata? name) := by
  simp [metadata?, find?, set, Entry.find?_insert_self _ _ _ _ l.sorted]

theorem metadata?_set_of_ne (l : Locals) {name other : String} (value : Value)
    (metadata : Option Metadata) (h : other ≠ name) :
    (l.set name value metadata).metadata? other = l.metadata? other := by
  simp [metadata?, find?, set, Entry.find?_insert_of_ne _ _ _ h]

/-- A name is defined exactly if it has a value. -/
theorem defines_eq (l : Locals) (name : String) :
    l.defines name = (l.value? name).isSome := by
  simp [defines, value?]

@[ext]
theorem ext {l k : Locals} (h : l.entries = k.entries) : l = k := by
  cases l; cases k; simp_all

end Locals
end ScopeChain
