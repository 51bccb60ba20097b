/-
Host values.

A value is what a script may bind.  Lists, tuples and dicts are containers, and a value only
names its container, whose content is in the heap, so that a container that is shared is one
thing however it is reached.  Scopes, scripts and snapshots are named likewise by their
place in the session.  All other values are data.
-/
import ScopeChain.Binary64.Basic

namespace ScopeChain

/-- The place of a container in the heap. -/
abbrev ContainerId := Nat

abbrev ScopeId := Nat

abbrev ScriptId := Nat

abbrev SnapshotId := Nat

inductive Value where
  | null
  | bool (b : Bool)
  | int (i : Int)
  | float (x : Binary64)
  | text (s : String)
  | bytes (bs : List UInt8)
  | container (id : ContainerId)
  /-- A host object without a view.  Objects of one label are one object. -/
  | object (label : String)
  | scope (id : ScopeId)
  | script (id : ScriptId)
  | snapshot (id : SnapshotId)
  deriving DecidableEq, Repr, Inhabited

end ScopeChain
