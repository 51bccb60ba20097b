/-
Reading a snapshot from host data.

A scope is a dict with a depth, a global flag, a list of variables and a parent, or a
snapshot, which is taken as it is.  Keys of other names are ignored.  The findings of all
fields are collected in that order, and the shape of a scope is checked only if its fields
are sound.
-/
import ScopeChain.Snapshot.Basic

namespace ScopeChain
namespace Snapshot

/-- How many scopes may be nested in each other. -/
def scopeLimit : Nat := 255

def checkRequired {α : Type} (check : Value → Except Issue α) (entries : Metadata)
    (name : String) : Checked α :=
  Checked.inside (.field name) <|
    match fieldOf entries name with
    | none => Checked.fail .required
    | some v => .ofCoercion (check v)

def checkDepth (entries : Metadata) : Checked Nat :=
  match checkRequired (Coerce.integerFrom 0) entries "depth" with
  | .ok i => .ok i.toNat
  | .error fs => .error fs

/-- Metadata that may be missing or null. -/
def checkOptionalMetadata (heap : Heap) (entries : Metadata) : Checked (Option Metadata) :=
  Checked.inside (.field "meta") <|
    match fieldOf entries "meta" with
    | none | some .null => .ok none
    | some v =>
      match heap.dict? v with
      | none => Checked.fail .notDict
      | some metadata =>
        match checkMetadata metadata with
        | .ok metadata => .ok (some metadata)
        | .error fs => .error fs

/-- A variable from the fields of a dict.  A missing value is null. -/
def checkEntryFields (heap : Heap) (entries : Metadata) : Checked Entry :=
  let name := checkRequired Coerce.text entries "name"
  let metadata := checkOptionalMetadata heap entries
  match name, metadata with
  | .ok name, .ok metadata => .ok ⟨name, (fieldOf entries "value").getD .null, metadata⟩
  | name, metadata => .error (name.faults ++ metadata.faults)

def checkEntry (heap : Heap) (v : Value) : Checked Entry :=
  match heap.dict? v with
  | some entries => checkEntryFields heap entries
  | none => Checked.fail .notEntry

/-- Variables from here on.  Each finding is inside its index. -/
def checkEntriesFrom (heap : Heap) (i : Nat) : List Value → Checked (List Entry)
  | [] => .ok []
  | v :: rest =>
    match Checked.inside (.index i) (checkEntry heap v), checkEntriesFrom heap (i + 1) rest with
    | .ok e, .ok es => .ok (e :: es)
    | e, es => .error (e.faults ++ es.faults)

/-- The items of a value that counts as a list.  A snapshot does, with its fields for items,
of which only the names matter here: none of them is a variable. -/
def listItems? (heap : Heap) : Value → Option (List Value)
  | .snapshot _ => some (["depth", "is_global", "variables", "parent"].map Value.text)
  | v => heap.items? v

def checkEntries (heap : Heap) (entries : Metadata) : Checked (List Entry) :=
  Checked.inside (.field "variables") <|
    match fieldOf entries "variables" with
    | none => .ok []
    | some v =>
      match listItems? heap v with
      | some items => checkEntriesFrom heap 0 items
      | none => Checked.fail .notList

/-- A snapshot as a parent.  What is put in front of one that was there before is built on
it. -/
def asParent (v : Value) (s : Snapshot) : Snapshot :=
  match v with
  | .snapshot id => { s with base := some id }
  | _ => s

/-- The snapshot that encloses a scope, if there is one. -/
def checkParent (read : Value → Checked Snapshot) (entries : Metadata) :
    Checked (Option Snapshot) :=
  Checked.inside (.field "parent") <|
    match fieldOf entries "parent" with
    | none | some .null => .ok none
    | some v =>
      match read v with
      | .ok snapshot => .ok (some (asParent v snapshot))
      | .error fs => .error fs

def checkFields (heap : Heap) (read : Value → Checked Snapshot) (entries : Metadata) :
    Checked Snapshot :=
  let depth := checkDepth entries
  let isGlobal := checkRequired Coerce.boolean entries "is_global"
  let bound := checkEntries heap entries
  let parent := checkParent read entries
  match depth, isGlobal, bound, parent with
  | .ok depth, .ok isGlobal, .ok bound, .ok parent =>
    checkShape depth isGlobal bound parent
  | depth, isGlobal, bound, parent =>
    .error (depth.faults ++ isGlobal.faults ++ bound.faults ++ parent.faults)

/-- The snapshot of a scope inside the dicts `seen`, with `room` for that many scopes. -/
def checkScope (heap : Heap) (snapshots : Array Snapshot) :
    (room : Nat) → (seen : List ContainerId) → Value → Checked Snapshot
  | 0, seen, v =>
    match v with
    | .container id => Checked.fail (if seen.contains id then .cyclic else .tooDeep)
    | _ => Checked.fail .tooDeep
  | room + 1, seen, v =>
    match v with
    | .snapshot s =>
      match snapshots[s]? with
      | some snapshot => .ok snapshot
      | none => Checked.fail .notScope
    | .container id =>
      if seen.contains id then Checked.fail .cyclic
      else
        match heap.dict? v with
        | some entries => checkFields heap (checkScope heap snapshots room (id :: seen)) entries
        | none => Checked.fail .notScope
    | _ => Checked.fail .notScope

def ofValue (heap : Heap) (snapshots : Array Snapshot) (v : Value) : Checked Snapshot :=
  checkScope heap snapshots scopeLimit [] v

def ofFields (heap : Heap) (snapshots : Array Snapshot) (fields : Metadata) :
    Checked Snapshot :=
  checkFields heap (checkScope heap snapshots (scopeLimit - 1) []) fields

end Snapshot
end ScopeChain
