/-
All operations of a session, and runs of them.
-/
import ScopeChain.Session.Scripts
import ScopeChain.Session.Snapshots

namespace ScopeChain

/-- Operations on host values. -/
inductive HostOp where
  | give (v : Value)
  | append (id : ContainerId) (v : Value)
  | put (id : ContainerId) (key : Key) (v : Value)
  deriving Repr

/-- Operations on settings and their sources. -/
inductive SettingsOp where
  /-- Sets a variable of the environment, or removes it. -/
  | setVariable (name : String) (value : Option String)
  /-- Writes the settings file, or removes it. -/
  | setFile (bytes : Option (List UInt8))
  | current
  | reload
  /-- A configuration from arguments, which is not kept. -/
  | make (arguments : Arguments)
  deriving Repr

inductive Op where
  | scope (op : ScopeOp)
  | script (op : ScriptOp)
  | snapshot (op : SnapshotOp)
  | host (op : HostOp)
  | settings (op : SettingsOp)
  deriving Repr

namespace Session

def hostStep (s : Session) : HostOp → Session × Outcome
  | .give v => s.answer (.value v)
  | .append id v =>
    match s.heap.append id v with
    | some heap => ({ s with heap }, .reply (.value (.container id)))
    | none => s.fail .absent
  | .put id key v =>
    match s.heap.put id key v with
    | some heap => ({ s with heap }, .reply (.value (.container id)))
    | none => s.fail .absent

/-- An operation on host values changes containers only, or fails. -/
theorem hostStep_cases (s : Session) (op : HostOp) :
    (∃ heap v, s.hostStep op = ({ s with heap }, .reply (.value v))) ∨
      s.hostStep op = s.fail .absent := by
  cases op with
  | give v => exact .inl ⟨s.heap, v, rfl⟩
  | append id v =>
    rw [hostStep]
    split
    next heap _ => exact .inl ⟨heap, _, rfl⟩
    next => exact .inr rfl
  | put id key v =>
    rw [hostStep]
    split
    next heap _ => exact .inl ⟨heap, _, rfl⟩
    next => exact .inr rfl

def settingsStep (s : Session) : SettingsOp → Session × Outcome
  | .setVariable name value =>
    let environment := match value with
      | some v => s.sources.environment.put name v
      | none => s.sources.environment.filter fun p => p.1 ≠ name
    ({ s with sources := { s.sources with environment } }, .reply .nothing)
  | .setFile file => ({ s with sources := { s.sources with file } }, .reply .nothing)
  | .current => s.withConfig fun s c => s.answer (.config c)
  | .reload => { s with config := none }.withConfig fun s c => s.answer (.config c)
  | .make arguments =>
    match Settings.make s.heap arguments.dict s.sources with
    | .ok c => s.answer (.config c)
    | .error e => s.fail (.settings e)

def step (s : Session) : Op → Session × Outcome
  | .scope op => s.scopeStep op
  | .script op => s.scriptStep op
  | .snapshot op => s.snapshotStep op
  | .host op => s.hostStep op
  | .settings op => s.settingsStep op

def run (s : Session) : List Op → Session × List Outcome
  | [] => (s, [])
  | op :: rest =>
    let (s, o) := s.step op
    let (s, os) := s.run rest
    (s, o :: os)

end Session
end ScopeChain
