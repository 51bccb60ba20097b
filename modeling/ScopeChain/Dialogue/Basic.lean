/-
Dialogues: a session as its user sees it.

Operations come with values that were read from literals, and answers are shown as
literals.  A reply that is a list or a dict of its own is made a container when it is
shown, so that it can be kept and changed without a change to the session.
-/
import ScopeChain.Dialogue.Literal
import ScopeChain.Session.Step

namespace ScopeChain

structure Dialogue where
  session : Session
  handles : Handles

structure ShownEntry where
  name : String
  value : Literal
  metadata : Literal
  deriving Repr

structure ShownFrame where
  depth : Nat
  isGlobal : Bool
  entries : List ShownEntry
  deriving Repr

inductive Shown where
  | literal (l : Literal)
  | entry (e : ShownEntry)
  | frames (fs : List ShownFrame)
  deriving Repr

/-- An answer as it is shown, the lines of the log, and the handle of a kept answer. -/
structure Response where
  answer : Except Failure Shown
  log : List String
  kept : Option Nat

namespace Reply

/-- A dict of metadata, or null without metadata. -/
def metadataValue (h : Heap) : Option Metadata → Value × Heap
  | none => (.null, h)
  | some m =>
    let (id, h) := h.alloc (.dict m)
    (.container id, h)

/-- Variables as tuples of name, value and metadata. -/
def itemValues (h : Heap) : List Entry → List Value × Heap
  | [] => ([], h)
  | e :: rest =>
    let (m, h) := metadataValue h e.metadata
    let (id, h) := h.alloc (.tuple [.text e.name, e.value, m])
    let (vs, h) := itemValues h rest
    (.container id :: vs, h)

/-- A configuration as a dict. -/
def configEntries (c : Config) : Metadata := [
  (.text "self_name", .text c.selfName), (.text "context_name", .text c.contextName),
  (.text "thread_safe", .bool c.threadSafe), (.text "max_snapshot_depth", .int c.maxSnapshotDepth)]

def newList (h : Heap) (items : List Value) : Value × Heap :=
  let (id, h) := h.alloc (.list items)
  (.container id, h)

/-- The value of a reply.  Frames and variables have none. -/
def toValue (h : Heap) : Reply → Option (Value × Heap)
  | .nothing => some (.null, h)
  | .flag b => some (.bool b, h)
  | .number n => some (.int n, h)
  | .text s => some (.text s, h)
  | .names ns => some (newList h (ns.map Value.text))
  | .scope b => some (.scope b, h)
  | .scopes bs => some (newList h (bs.map Value.scope))
  | .value v => some (v, h)
  | .metadata m => some (metadataValue h (some m))
  | .items entries =>
    let (vs, h) := itemValues h entries
    some (newList h vs)
  | .script s => some (.script s, h)
  | .snapshot s => some (.snapshot s, h)
  | .config c => some (metadataValue h (some (configEntries c)))
  | .frames _ => none
  | .entry _ => none

end Reply

namespace Dialogue

def start (sources : Sources) : Dialogue := ⟨.start sources, {}⟩

/-- Reads a literal.  Its containers are in the heap from then on. -/
def read (d : Dialogue) (l : Literal) : Option (Value × Dialogue) :=
  match l.read d.handles d.session.heap with
  | some (v, heap) => some (v, { d with session := { d.session with heap } })
  | none => none

def showValue (heap : Heap) (v : Value) : StateM Handles Literal :=
  Literal.ofValue heap (heap.cells.size + 1) [] v

/-- Metadata as a dict.  Its values are shown in order. -/
def showMetadata (heap : Heap) : Option Metadata → StateM Handles Literal
  | none => pure .null
  | some m => do
    pure (.dict (← m.mapM fun (k, v) => do
      pure (Literal.ofKey k, ← showValue heap v)))

def showEntry (heap : Heap) (e : Entry) : StateM Handles ShownEntry := do
  let value ← showValue heap e.value
  let metadata ← showMetadata heap e.metadata
  pure ⟨e.name, value, metadata⟩

def showFrame (heap : Heap) (f : Frame) : StateM Handles ShownFrame := do
  pure ⟨f.depth, f.isGlobal, ← f.entries.mapM (showEntry heap)⟩

def keepValue (heap : Heap) : Value → StateM Handles (Option Nat)
  | .container id =>
    match heap.get? id with
    | some (.list _) | some (.dict _) => do pure (some (← Handles.keep id))
    | _ => pure none
  | _ => pure none

/-- Shows a reply, and keeps it if that is asked. -/
def showReply (d : Dialogue) (keep : Bool) (r : Reply) : Dialogue × Shown × Option Nat :=
  match r with
  | .frames fs =>
    let (shown, handles) := (fs.mapM (showFrame d.session.heap)).run d.handles
    ({ d with handles }, .frames shown, none)
  | .entry e =>
    let (shown, handles) := (showEntry d.session.heap e).run d.handles
    ({ d with handles }, .entry shown, none)
  | r =>
    match r.toValue d.session.heap with
    | none => (d, .literal .null, none)
    | some (v, heap) =>
      let (l, handles) := (showValue heap v).run d.handles
      let (kept, handles) := (if keep then keepValue heap v else pure none).run handles
      ({ session := { d.session with heap }, handles }, .literal l, kept)

def perform (d : Dialogue) (op : Op) (keep : Bool) : Dialogue × Response :=
  let (session, outcome) := d.session.step op
  let d := { d with session }
  let log := outcome.log.map Record.line
  match outcome.answer with
  | .error e => (d, ⟨.error e, log, none⟩)
  | .ok r =>
    let (d, shown, kept) := d.showReply keep r
    (d, ⟨.ok shown, log, kept⟩)

end Dialogue
end ScopeChain
