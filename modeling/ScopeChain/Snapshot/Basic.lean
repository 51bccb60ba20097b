/-
Snapshots: what a chain of scopes held when it was captured.

A snapshot is the frame of the captured scope and the frames of those that enclose it, the
global one last.  It may be built on another snapshot, whose frames are then its last ones.
`capture` takes the frames from a chain, each of which has to fit those that enclose it, and
`restore` makes a fresh chain of them.
-/
import ScopeChain.Check.Coerce
import ScopeChain.Scope.Forest
import ScopeChain.Value.Heap

namespace ScopeChain

/-- One captured scope. -/
structure Frame where
  depth : Nat
  isGlobal : Bool
  entries : List Entry
  deriving Repr

structure Snapshot where
  first : Frame
  outer : List Frame
  /-- The snapshot that it is built on. -/
  base : Option SnapshotId
  deriving Repr

namespace Snapshot

/-- All frames, the captured scope first. -/
def frames (s : Snapshot) : List Frame := s.first :: s.outer

def scopeCount (s : Snapshot) : Nat := s.frames.length

theorem scopeCount_eq (s : Snapshot) : s.scopeCount = s.outer.length + 1 := rfl

/-- A copy of a dict whose keys are texts.  A key that is none is a finding. -/
def checkKeys : Metadata → Checked Metadata
  | [] => .ok []
  | (k, v) :: rest =>
    match Coerce.keyText k, checkKeys rest with
    | .ok s, .ok pairs => .ok ((.text s, v) :: pairs)
    | .ok _, .error fs => .error fs
    | .error issue, pairs => .error (⟨[.key k], issue⟩ :: pairs.faults)

/-- Metadata with texts for keys.  Keys that become equal keep the first place and the last
value. -/
def checkMetadata (metadata : Metadata) : Checked Metadata :=
  match checkKeys metadata with
  | .ok pairs => .ok (dictOf pairs)
  | .error fs => .error fs

def captureEntry (e : Entry) : Checked Entry :=
  match e.metadata with
  | none => .ok e
  | some metadata =>
    match checkMetadata metadata with
    | .ok metadata => .ok { e with metadata := some metadata }
    | .error fs => .error (fs.map (Fault.inside (.field "meta")))

/-- The variables of a scope as they are captured.  The first that can not be ends it. -/
def captureEntries : List Entry → Checked (List Entry)
  | [] => .ok []
  | e :: rest =>
    match captureEntry e with
    | .error fs => .error fs
    | .ok e =>
      match captureEntries rest with
      | .ok es => .ok (e :: es)
      | .error fs => .error fs

/-- A scope in front of its parent.  It is global exactly if it has none, and otherwise one
deeper. -/
def checkShape (depth : Nat) (isGlobal : Bool) (entries : List Entry)
    (parent : Option Snapshot) : Checked Snapshot :=
  let expected := match parent with
    | none => 0
    | some s => s.first.depth + 1
  if isGlobal ≠ parent.isNone then Checked.fail .globalMismatch
  else if depth ≠ expected then Checked.fail (.depthMismatch depth expected)
  else
    .ok {
      first := ⟨depth, isGlobal, entries⟩
      outer := (parent.map frames).getD []
      base := parent.bind base }

/-- A scope as it is captured in front of the snapshot of those that enclose it. -/
def captureFrame (f : Forest) (depth : Nat) (b : ScopeId) (parent : Option Snapshot) :
    Checked Snapshot :=
  match captureEntries (f.locals b).entries with
  | .ok entries => checkShape depth (f.isGlobal b) entries parent
  | .error fs => .error fs

/-- The snapshot of a chain, if there is any scope on it. -/
def captureChain (f : Forest) : List ScopeId → Checked (Option Snapshot)
  | [] => .ok none
  | b :: rest =>
    -- The parent goes first, so that the scope nearest to the root is the one to be refused.
    match captureChain f rest with
    | .error fs => .error fs
    | .ok parent => (captureFrame f rest.length b parent).map some

def capture (f : Forest) (b : ScopeId) : Checked Snapshot :=
  match captureChain f (f.enclosing b) with
  | .error fs => .error fs
  | .ok parent => captureFrame f (f.depth b) b parent

/-- A new scope that holds what a frame holds. -/
def restoreFrame (f : Forest) (parent : Option ScopeId) (frame : Frame) : ScopeId × Forest :=
  let (b, f) := f.add parent
  (b, f.writeAll b frame.entries)

/-- One new scope for each frame, from the last frame inward.  The answer is the scope of
the first frame. -/
def restoreFrames (f : Forest) : List Frame → Option ScopeId × Forest
  | [] => (none, f)
  | frame :: rest =>
    let (parent, f) := restoreFrames f rest
    let (b, f) := restoreFrame f parent frame
    (some b, f)

def restore (f : Forest) (s : Snapshot) : ScopeId × Forest :=
  let (parent, f) := restoreFrames f s.outer
  restoreFrame f parent s.first

end Snapshot
end ScopeChain
