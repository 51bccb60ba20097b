/-
Operations on snapshots and their JSON texts.
-/
import ScopeChain.Json.Writer
import ScopeChain.Session.Basic
import ScopeChain.Snapshot.Check
import ScopeChain.Value.OfJson

namespace ScopeChain

inductive SnapshotOp where
  | capture (b : ScopeId)
  | restore (s : SnapshotId)
  | scopeCount (s : SnapshotId)
  | frames (s : SnapshotId)
  /-- A snapshot from the fields of its first scope. -/
  | make (fields : Arguments)
  /-- A variable from its fields. -/
  | makeEntry (fields : Arguments)
  | serialize (b : ScopeId)
  | deserialize (text : String)
  /-- A chain from the data of a snapshot. -/
  | load (data : Value)
  deriving Repr

namespace Session

def withSnapshot (s : Session) (id : SnapshotId) (next : Snapshot → Session × Outcome) :
    Session × Outcome :=
  match s.snapshots[id]? with
  | some snapshot => next snapshot
  | none => s.fail .absent

/-- Captures a chain, unless it is deeper than the configuration allows. -/
def withCapture (s : Session) (b : ScopeId) (next : Session → Snapshot → Session × Outcome) :
    Session × Outcome :=
  s.withConfig fun s c =>
    let depth := s.forest.depth b
    if c.maxSnapshotDepth < depth then
      s.fail (.snapshot (.tooDeep depth c.maxSnapshotDepth))
    else
      match Snapshot.capture s.forest b with
      | .error faults => s.fail (.snapshot (.uncapturable faults))
      | .ok snapshot => next s snapshot

def addSnapshot (s : Session) (snapshot : Snapshot) (log : List Record) : Session × Outcome :=
  ({ s with snapshots := s.snapshots.push snapshot },
    ⟨.ok (.snapshot s.snapshots.size), log⟩)

def rebuild (s : Session) (snapshot : Snapshot) : Session × Outcome :=
  let (b, forest) := snapshot.restore s.forest
  ({ s with forest }, ⟨.ok (.scope b), [.restored snapshot.scopeCount]⟩)

def write (s : Session) (snapshot : Snapshot) : Except Snapshot.Refusal String :=
  match snapshot.toTree s.heap s.snapshots with
  | .error r => .error r
  | .ok tree => if tree.hasLongInteger then .error .longInteger else .ok tree.render

/-- Rebuilds a chain from data in a heap, which becomes the session's if that succeeds. -/
def loadFrom (s : Session) (heap : Heap) (data : Value) : Session × Outcome :=
  match Snapshot.ofValue heap s.snapshots data with
  | .error faults => s.fail (.snapshot (.invalid faults))
  | .ok snapshot =>
    -- A chain that is rebuilt asks for the configuration, and data that is refused does not.
    match s.current with
    | (s, .ok _) => { s with heap }.rebuild snapshot
    | (s, .error e) => s.fail (.snapshot (.ofSettings e))

/-- The error of a text that can not be read. -/
def readError (cs : List Char) : Json.Stop → SnapshotError
  | .problem p left =>
    let (line, column) := Json.position cs left
    .malformed p line column
  | .longInteger digits => .longInteger digits
  | .deep object => .nested object
  | .surrogate => .unpaired

def snapshotStep (s : Session) : SnapshotOp → Session × Outcome
  | .capture b =>
    if b < s.forest.size then
      s.withCapture b fun s snapshot => s.addSnapshot snapshot [.captured snapshot.scopeCount]
    else s.fail .absent
  | .restore id => s.withSnapshot id fun snapshot =>
    s.withConfig fun s _ => s.rebuild snapshot
  | .scopeCount id => s.withSnapshot id fun snapshot => s.answer (.number snapshot.scopeCount)
  | .frames id => s.withSnapshot id fun snapshot => s.answer (.frames snapshot.frames)
  | .make fields =>
    match Snapshot.ofFields s.heap s.snapshots fields.dict with
    | .ok snapshot => s.addSnapshot snapshot []
    | .error faults => s.fail (.invalid faults)
  | .makeEntry fields =>
    match Snapshot.checkEntryFields s.heap fields.dict with
    | .ok entry => s.answer (.entry entry)
    | .error faults => s.fail (.invalid faults)
  | .serialize b =>
    if b < s.forest.size then
      s.withCapture b fun s snapshot =>
        let log := [Record.captured snapshot.scopeCount]
        match s.write snapshot with
        | .ok text => (s, ⟨.ok (.text text), log⟩)
        | .error r => (s, ⟨.error (.snapshot (.unwritable r)), log⟩)
    else s.fail .absent
  | .deserialize text =>
    let cs := text.toList
    match Json.read cs with
    | .error stop => s.fail (.snapshot (readError cs stop))
    | .ok tree =>
      let (data, heap) := s.heap.ofJson tree
      s.loadFrom heap data
  | .load data => s.loadFrom s.heap data

end Session
end ScopeChain
