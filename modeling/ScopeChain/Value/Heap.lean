/-
The heap of containers.

A container is made once and keeps its place, so a value that names it sees every later
change.  Lists and dicts change and tuples do not.  Dicts keep the place and the spelling of
a key that is written again.  What is no list takes no item, and what is no dict no key.
-/
import ScopeChain.Value.Key

namespace ScopeChain

inductive Container where
  | list (items : List Value)
  | tuple (items : List Value)
  | dict (entries : Metadata)
  deriving Repr, Inhabited

/-- Writes a key: over the entry that has it, or behind all entries. -/
def putEntry (key : Key) (value : Value) : Metadata → Metadata
  | [] => [(key, value)]
  | (k, v) :: rest =>
    if k.same key then (k, value) :: rest else (k, v) :: putEntry key value rest

/-- The dict of pairs in their order.  Of equal keys it keeps the first place and spelling and
the last value. -/
def dictOf (pairs : Metadata) : Metadata :=
  pairs.foldl (fun done p => putEntry p.1 p.2 done) []

/-- Arguments that are passed by name. -/
abbrev Arguments := List (String × Value)

/-- Arguments as the dict that their receiver gets. -/
def Arguments.dict (arguments : Arguments) : Metadata :=
  dictOf (arguments.map fun (name, value) => (.text name, value))

/-- The value that a dict holds under a text. -/
def fieldOf (entries : Metadata) (name : String) : Option Value :=
  (entries.find? fun entry => entry.1.same (.text name)).map (·.2)

structure Heap where
  cells : Array Container := #[]
  deriving Repr

namespace Heap

def get? (h : Heap) (id : ContainerId) : Option Container := h.cells[id]?

def alloc (h : Heap) (c : Container) : ContainerId × Heap :=
  (h.cells.size, { cells := h.cells.push c })

def dict? (h : Heap) : Value → Option Metadata
  | .container id =>
    match h.get? id with
    | some (.dict entries) => some entries
    | _ => none
  | _ => none

def items? (h : Heap) : Value → Option (List Value)
  | .container id =>
    match h.get? id with
    | some (.list items) | some (.tuple items) => some items
    | _ => none
  | _ => none

def replace (h : Heap) (id : ContainerId) (c : Container) : Heap :=
  { cells := h.cells.setIfInBounds id c }

def append (h : Heap) (id : ContainerId) (value : Value) : Option Heap :=
  match h.get? id with
  | some (.list items) => some (h.replace id (.list (items ++ [value])))
  | _ => none

def put (h : Heap) (id : ContainerId) (key : Key) (value : Value) : Option Heap :=
  match h.get? id with
  | some (.dict entries) => some (h.replace id (.dict (putEntry key value entries)))
  | _ => none

theorem get?_alloc_self (h : Heap) (c : Container) :
    (h.alloc c).2.get? (h.alloc c).1 = some c := by
  simp [alloc, get?]

/-- A new container leaves the others as they are. -/
theorem get?_alloc_of_lt {h : Heap} {id : ContainerId} (lt : id < h.cells.size)
    (c : Container) : (h.alloc c).2.get? id = h.get? id := by
  simp [alloc, get?, Array.getElem?_push, Nat.ne_of_lt lt]

/-- A change of one container leaves the others as they are. -/
theorem get?_replace_of_ne (h : Heap) {id other : ContainerId} (ne : other ≠ id)
    (c : Container) : (h.replace id c).get? other = h.get? other := by
  simp [replace, get?, Ne.symm ne]

theorem get?_replace_self {h : Heap} {id : ContainerId} {old : Container}
    (found : h.get? id = some old) (c : Container) : (h.replace id c).get? id = some c := by
  have lt : id < h.cells.size := (Array.getElem?_eq_some_iff.mp found).1
  simp [replace, get?, lt]

/-- Items are put behind lists only. -/
theorem append_eq_some {h h' : Heap} {id : ContainerId} {value : Value} :
    h.append id value = some h' ↔ ∃ items, h.get? id = some (.list items) ∧
      h' = h.replace id (.list (items ++ [value])) := by
  rw [append]
  split
  next items found => simp [found, eq_comm]
  next other =>
    refine ⟨nofun, fun ⟨items, found, _⟩ => absurd found (other items)⟩

/-- Keys are written in dicts only. -/
theorem put_eq_some {h h' : Heap} {id : ContainerId} {key : Key} {value : Value} :
    h.put id key value = some h' ↔ ∃ entries, h.get? id = some (.dict entries) ∧
      h' = h.replace id (.dict (putEntry key value entries)) := by
  rw [put]
  split
  next entries found => simp [found, eq_comm]
  next other =>
    refine ⟨nofun, fun ⟨entries, found, _⟩ => absurd found (other entries)⟩

end Heap
end ScopeChain
