/-
Host values of JSON trees.  Every array is a new list and every object a new dict.
-/
import ScopeChain.Json.Basic
import ScopeChain.Value.Heap

namespace ScopeChain
namespace Heap

mutual
/-- The value of a tree, and the heap with its containers. -/
def ofJson (h : Heap) : Json → Value × Heap
  | .null => (.null, h)
  | .bool b => (.bool b, h)
  | .int i => (.int i, h)
  | .float x => (.float x, h)
  | .text s => (.text s, h)
  | .array items =>
    let (values, h) := ofItems h items
    let (id, h) := h.alloc (.list values)
    (.container id, h)
  | .object members =>
    let (entries, h) := ofMembers h members
    let (id, h) := h.alloc (.dict entries)
    (.container id, h)

def ofItems (h : Heap) : List Json → List Value × Heap
  | [] => ([], h)
  | j :: rest =>
    let (v, h) := ofJson h j
    let (vs, h) := ofItems h rest
    (v :: vs, h)

def ofMembers (h : Heap) : List (String × Json) → Metadata × Heap
  | [] => ([], h)
  | (name, j) :: rest =>
    let (v, h) := ofJson h j
    let (entries, h) := ofMembers h rest
    ((.text name, v) :: entries, h)
end

end Heap
end ScopeChain
