/-
Literals: values as they are written between a session and its user.

A literal spells data out, containers with their content.  What has an identity is named by
a handle, which is a number in one of four tables.  A thing gets the next number of its
table when it is first shown, and keeps it.
-/
import ScopeChain.Value.Heap

namespace ScopeChain

inductive Literal where
  | null
  | bool (b : Bool)
  | int (i : Int)
  | float (x : Binary64)
  | text (s : String)
  | bytes (bs : List UInt8)
  | list (items : List Literal)
  | tuple (items : List Literal)
  | dict (pairs : List (Literal × Literal))
  | object (label : String)
  | scope (handle : Nat)
  | script (handle : Nat)
  | snapshot (handle : Nat)
  /-- A container that was kept. -/
  | kept (handle : Nat)
  /-- A container that is inside itself, where it comes again. -/
  | cycle
  deriving Repr, Inhabited

/-- The handles given out: for each table the named things in order. -/
structure Handles where
  scopes : Array Nat := #[]
  scripts : Array Nat := #[]
  snapshots : Array Nat := #[]
  kept : Array Nat := #[]
  deriving Repr

namespace Handles

/-- The number of a thing in its table.  A thing that has none gets the next. -/
def number (table : Array Nat) (id : Nat) : Nat × Array Nat :=
  match table.idxOf? id with
  | some n => (n, table)
  | none => (table.size, table.push id)

def scope (id : ScopeId) : StateM Handles Nat := fun h =>
  let (n, scopes) := number h.scopes id
  (n, { h with scopes })

def script (id : ScriptId) : StateM Handles Nat := fun h =>
  let (n, scripts) := number h.scripts id
  (n, { h with scripts })

def snapshot (id : SnapshotId) : StateM Handles Nat := fun h =>
  let (n, snapshots) := number h.snapshots id
  (n, { h with snapshots })

def keep (id : ContainerId) : StateM Handles Nat := fun h =>
  let (n, kept) := number h.kept id
  (n, { h with kept })

end Handles

namespace Literal

/- The key that a literal spells. -/
mutual
def key? : Literal → Option Key
  | .null => some .null
  | .bool b => some (.bool b)
  | .int i => some (.int i)
  | .float x => some (.float x)
  | .text s => some (.text s)
  | .bytes bs => some (.bytes bs)
  | .tuple items => (keys? items).map Key.tuple
  | _ => none

def keys? : List Literal → Option (List Key)
  | [] => some []
  | l :: rest => do
    let k ← key? l
    let ks ← keys? rest
    pure (k :: ks)
end

/- The literal of a key. -/
mutual
def ofKey : Key → Literal
  | .null => .null
  | .bool b => .bool b
  | .int i => .int i
  | .float x => .float x
  | .text s => .text s
  | .bytes bs => .bytes bs
  | .tuple items => .tuple (ofKeys items)

def ofKeys : List Key → List Literal
  | [] => []
  | k :: rest => ofKey k :: ofKeys rest
end

/- The value of a literal, and the heap with its containers.  Each list, tuple and dict is a
new container, and a dict is made of its pairs in their order.  There is no value if a handle was never given out, or if a key of a dict is
none. -/
mutual
def read (handles : Handles) (h : Heap) : Literal → Option (Value × Heap)
  | .null => some (.null, h)
  | .bool b => some (.bool b, h)
  | .int i => some (.int i, h)
  | .float x => some (.float x, h)
  | .text s => some (.text s, h)
  | .bytes bs => some (.bytes bs, h)
  | .list items => do
    let (values, h) ← readAll handles h items
    let (id, h) := h.alloc (.list values)
    pure (.container id, h)
  | .tuple items => do
    let (values, h) ← readAll handles h items
    let (id, h) := h.alloc (.tuple values)
    pure (.container id, h)
  | .dict pairs => do
    let (entries, h) ← readPairs handles h pairs
    let (id, h) := h.alloc (.dict (dictOf entries))
    pure (.container id, h)
  | .object label => some (.object label, h)
  | .scope n => (handles.scopes[n]?).map fun id => (.scope id, h)
  | .script n => (handles.scripts[n]?).map fun id => (.script id, h)
  | .snapshot n => (handles.snapshots[n]?).map fun id => (.snapshot id, h)
  | .kept n => (handles.kept[n]?).map fun id => (.container id, h)
  | .cycle => none

def readAll (handles : Handles) (h : Heap) : List Literal → Option (List Value × Heap)
  | [] => some ([], h)
  | l :: rest => do
    let (v, h) ← read handles h l
    let (vs, h) ← readAll handles h rest
    pure (v :: vs, h)

def readPairs (handles : Handles) (h : Heap) :
    List (Literal × Literal) → Option (Metadata × Heap)
  | [] => some ([], h)
  | (k, l) :: rest => do
    let k ← key? k
    let (v, h) ← read handles h l
    let (entries, h) ← readPairs handles h rest
    pure ((k, v) :: entries, h)
end

/-- Shows a value inside the containers `path`.  Each container on the way in is new to the
path, so `room` for one more than the heap has is enough; where it is used up nothing more
is shown than where a container comes again. -/
def ofValue (heap : Heap) : (room : Nat) → (path : List ContainerId) → Value →
    StateM Handles Literal
  | 0, _, _ => pure .cycle
  | room + 1, path, v =>
    match v with
    | .null => pure .null
    | .bool b => pure (.bool b)
    | .int i => pure (.int i)
    | .float x => pure (.float x)
    | .text s => pure (.text s)
    | .bytes bs => pure (.bytes bs)
    | .container id =>
      if path.contains id then pure .cycle
      else
        match heap.get? id with
        | some (.list items) => do
          pure (.list (← items.mapM (ofValue heap room (id :: path))))
        | some (.tuple items) => do
          pure (.tuple (← items.mapM (ofValue heap room (id :: path))))
        | some (.dict entries) => do
          pure (.dict (← entries.mapM fun (k, v) => do
            pure (ofKey k, ← ofValue heap room (id :: path) v)))
        | none => pure .cycle
    | .object label => pure (.object label)
    | .scope id => do pure (.scope (← Handles.scope id))
    | .script id => do pure (.script (← Handles.script id))
    | .snapshot id => do pure (.snapshot (← Handles.snapshot id))

end Literal
end ScopeChain
