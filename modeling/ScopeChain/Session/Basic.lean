/-
Sessions: all state that a script host can observe, and the answers of its operations.

A session holds the heap of host containers, the forest of scopes, the snapshots and
scripts made so far, the sources of settings, and the configuration once it is loaded.
Scopes, snapshots and scripts are never removed.
-/
import ScopeChain.Json.Reader
import ScopeChain.Session.Log
import ScopeChain.Settings.Config
import ScopeChain.Snapshot.Tree

namespace ScopeChain

/-- A script runs in one scope with one execution context. -/
structure Script where
  scope : ScopeId
  context : Value
  deriving Repr, Inhabited

structure Session where
  heap : Heap
  forest : Forest
  snapshots : Array Snapshot
  scripts : Array Script
  sources : Sources
  config : Option Config

inductive SnapshotError where
  | tooDeep (depth limit : Nat)
  | uncapturable (faults : List Fault)
  | unwritable (r : Snapshot.Refusal)
  | malformed (p : Json.Problem) (line column : Nat)
  | longInteger (digits : Nat)
  | nested (object : Bool)
  /-- A string holds a surrogate without its partner, which is no character. -/
  | unpaired
  | invalid (faults : List Fault)
  /-- The configuration could not be loaded for a reason other than its values. -/
  | unloadable (e : Settings.Failure)
  deriving Repr

namespace SnapshotError

/-- What was attempted. -/
def message : SnapshotError → String
  | .tooDeep .. => "Scope chain too deep to snapshot"
  | .uncapturable _ => "Scope chain can't be captured"
  | .unwritable _ => "Failed to serialize scope chain"
  | .malformed .. => "Invalid JSON format"
  | .longInteger _ | .nested _ | .unpaired | .unloadable _ => "Failed to deserialize scope chain"
  | .invalid _ => "Snapshot validation failed"

/-- What went wrong. -/
def details : SnapshotError → String
  | .tooDeep depth limit =>
    "depth " ++ Digits.natText depth ++ " exceeds max_snapshot_depth " ++ Digits.natText limit
  | .uncapturable faults | .invalid faults => Fault.report faults
  | .unwritable r => r.message
  | .malformed p line column =>
    "Line " ++ Digits.natText line ++ ", column " ++ Digits.natText column ++ ": " ++ p.message
  | .longInteger digits =>
    "Exceeds the limit (4300 digits) for integer string conversion: value has " ++
      Digits.natText digits ++
      " digits; use sys.set_int_max_str_digits() to increase the limit"
  | .nested object =>
    "maximum recursion depth exceeded while decoding a JSON " ++
      (if object then "object" else "array") ++ " from a unicode string"
  | .unpaired => "surrogates not allowed"
  | .unloadable e => e.message

/-- A failure to load the configuration, met while a chain is rebuilt. -/
def ofSettings : Settings.Failure → SnapshotError
  | .invalid faults => .invalid faults
  | e => .unloadable e

end SnapshotError

inductive Failure where
  | unknownVariable (name : String)
  | snapshot (e : SnapshotError)
  | settings (e : Settings.Failure)
  | invalid (faults : List Fault)
  /-- An operand names nothing in the session. -/
  | absent
  deriving Repr

namespace Failure

def message : Failure → String
  | .unknownVariable name => "Unknown variable: " ++ name
  | .snapshot e => e.message
  | .settings e => e.message
  | .invalid faults => Fault.report faults
  | .absent => "Unknown operand"

end Failure

/-- What an operation answers.  Names, items, metadata and the configuration are copies
that share no container with the session. -/
inductive Reply where
  | nothing
  | flag (b : Bool)
  | number (n : Nat)
  | text (s : String)
  | names (ns : List String)
  | scope (b : ScopeId)
  | scopes (bs : List ScopeId)
  | value (v : Value)
  | metadata (m : Metadata)
  | items (entries : List Entry)
  | script (s : ScriptId)
  | snapshot (s : SnapshotId)
  | frames (fs : List Frame)
  | entry (e : Entry)
  | config (c : Config)
  deriving Repr

/-- The answer of an operation and the records it leaves in the log. -/
structure Outcome where
  answer : Except Failure Reply
  log : List Record

namespace Outcome

def reply (r : Reply) : Outcome := ⟨.ok r, []⟩

def fail (e : Failure) : Outcome := ⟨.error e, []⟩

end Outcome

namespace Session

def start (sources : Sources) : Session :=
  { heap := {}, forest := .empty, snapshots := #[], scripts := #[], sources, config := none }

/-- The configuration in force, and the session that keeps it. -/
def current (s : Session) : Session × Except Settings.Failure Config :=
  match s.config with
  | some c => (s, .ok c)
  | none =>
    match Settings.load {} [] s.sources with
    | .ok c => ({ s with config := some c }, .ok c)
    -- Nothing is kept, so that the next call loads again.
    | .error e => (s, .error e)

/-- Goes on with the configuration, or fails as its load does. -/
def withConfig (s : Session) (next : Session → Config → Session × Outcome) :
    Session × Outcome :=
  match s.current with
  | (s, .ok c) => next s c
  | (s, .error e) => (s, .fail (.settings e))

def answer (s : Session) (r : Reply) : Session × Outcome := (s, .reply r)

def fail (s : Session) (e : Failure) : Session × Outcome := (s, .fail e)

theorem current_of_config {s : Session} {c : Config} (h : s.config = some c) :
    s.current = (s, .ok c) := by
  simp [current, h]

end Session
end ScopeChain
