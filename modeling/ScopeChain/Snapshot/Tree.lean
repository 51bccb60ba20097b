/-
The JSON tree of a snapshot.

Values are made JSON by one rule each: NaN and the infinities become null, bytes their
text, tuples arrays, and keys texts.  Keys that become equal keep the first place and the
last value.  Host objects are refused, and so is a container or a snapshot inside itself.
Every scope and every value takes a level, and there are `levelLimit` of them.  A snapshot
among the values takes one for itself and one for each of its scopes.  The metadata dict of
a variable takes none.
-/
import ScopeChain.Json.Basic
import ScopeChain.Snapshot.Basic

namespace ScopeChain
namespace Snapshot

/-- How many levels a tree may have. -/
def levelLimit : Nat := 255

/-- Why a value has no JSON tree. -/
inductive Refusal where
  | bytes (bs : List UInt8) (r : Refused)
  | unknown (kind : String)
  | cyclic
  | deep
  | longInteger
  deriving DecidableEq, Repr

namespace Refusal

def message : Refusal → String
  | .bytes bs r => r.describe "utf-8" bs "invalid utf-8"
  | .unknown kind => "Unable to serialize unknown type: <class '" ++ kind ++ "'>"
  | .cyclic => "Circular reference detected (id repeated)"
  | .deep => "Maximum serialization depth exceeded"
  | .longInteger =>
    "Exceeds the limit (4300 digits) for integer string conversion; " ++
      "use sys.set_int_max_str_digits() to increase the limit"

end Refusal

/-- The names of the kinds that have no tree. -/
def objectKind : String := "host.Opaque"

def scopeKind : String := "scriptenv.binding.Binding"

def scriptKind : String := "scriptenv.script.Script"

/-- The text that bytes spell. -/
def bytesText (bs : List UInt8) : Except Refusal String :=
  match Utf8.decode bs with
  | .ok cs => .ok (String.ofList cs)
  | .error r => .error (.bytes bs r)

/- A key as a text.  A tuple is its items with commas between them. -/
mutual
def keyText : Key → Except Refusal String
  | .null => .ok "None"
  | .bool b => .ok (if b then "true" else "false")
  | .int i =>
    if Json.digitLimit < (Digits.ofNat i.natAbs).length then .error .longInteger
    else .ok (Digits.intText i)
  | .float x => .ok (if x.isFinite then x.text else "None")
  | .text s => .ok s
  | .bytes bs => bytesText bs
  | .tuple items =>
    match keyTexts items with
    | .ok parts => .ok (",".intercalate parts)
    | .error r => .error r

def keyTexts : List Key → Except Refusal (List String)
  | [] => .ok []
  | k :: rest =>
    match keyText k with
    | .error r => .error r
    | .ok part =>
      match keyTexts rest with
      | .ok parts => .ok (part :: parts)
      | .error r => .error r
end

/-- A value that holds no other. -/
def scalarTree : Value → Except Refusal Json
  | .null => .ok .null
  | .bool b => .ok (.bool b)
  | .int i => .ok (.int i)
  | .float x => .ok (if x.isFinite then .float x else .null)
  | .text s => .ok (.text s)
  | .bytes bs =>
    match bytesText bs with
    | .ok s => .ok (.text s)
    | .error r => .error r
  | .object _ => .error (.unknown objectKind)
  | .scope _ => .error (.unknown scopeKind)
  | .script _ => .error (.unknown scriptKind)
  | _ => .error .deep

def itemTrees (tree : Value → Except Refusal Json) : List Value → Except Refusal (List Json)
  | [] => .ok []
  | v :: rest =>
    match tree v with
    | .error r => .error r
    | .ok j =>
      match itemTrees tree rest with
      | .ok js => .ok (j :: js)
      | .error r => .error r

/-- The members that a dict becomes, behind the members `done`. -/
def memberTrees (tree : Value → Except Refusal Json) (done : List (String × Json)) :
    Metadata → Except Refusal (List (String × Json))
  | [] => .ok done
  | (k, v) :: rest =>
    match keyText k with
    | .error r => .error r
    | .ok name =>
      match tree v with
      | .error r => .error r
      | .ok j => memberTrees tree (Json.putMember name j done) rest

def entryTree (tree : Value → Except Refusal Json) (e : Entry) : Except Refusal Json :=
  match tree e.value with
  | .error r => .error r
  | .ok value =>
    match e.metadata with
    | none => .ok (.object [("name", .text e.name), ("value", value), ("meta", .null)])
    | some metadata =>
      match memberTrees tree [] metadata with
      | .error r => .error r
      | .ok members =>
        .ok (.object [("name", .text e.name), ("value", value), ("meta", .object members)])

def entryTrees (tree : Value → Except Refusal Json) : List Entry → Except Refusal (List Json)
  | [] => .ok []
  | e :: rest =>
    match entryTree tree e with
    | .error r => .error r
    | .ok j =>
      match entryTrees tree rest with
      | .ok js => .ok (j :: js)
      | .error r => .error r

/-- The tree of a scope whose parent has the tree `parent`. -/
def frameTree (frame : Frame) (members : List Json) (parent : Json) : Json :=
  .object [("depth", .int frame.depth), ("is_global", .bool frame.isGlobal),
    ("variables", .array members), ("parent", parent)]

/-- What can be inside itself. -/
inductive Node where
  | container (id : ContainerId)
  | snapshot (id : SnapshotId)
  /-- The frame of a depth in the snapshot that it was made with. -/
  | frame (id : SnapshotId) (depth : Nat)
  deriving DecidableEq, Repr

/-- The node of a value.  Data has none. -/
def node? : Value → Option Node
  | .container id => some (.container id)
  | .snapshot id => some (.snapshot id)
  | _ => none

/-- The snapshot that a frame was made with, where `owner` is that of the frame in front.
It changes to the one that `owner` is built on at the first frame of that one. -/
def ownerOf (snapshots : Array Snapshot) (owner : Option SnapshotId) (depth : Nat) :
    Option SnapshotId :=
  match owner.bind fun id => (snapshots[id]?).bind base with
  | none => owner
  | some id =>
    if (snapshots[id]?).any fun s => s.first.depth = depth then some id else owner

/- The tree of a value inside the nodes `path`, and that of frames of a snapshot `owner`,
with `room` for that many levels.  A snapshot that is only being written has no place and so
no owner. -/
mutual
def valueTree (heap : Heap) (snapshots : Array Snapshot) (room : Nat) (path : List Node)
    (v : Value) : Except Refusal Json :=
  if (node? v).any path.contains then .error .cyclic
  else
    match room with
    | 0 => .error .deep
    | room + 1 =>
      match v with
      | .container id =>
        let tree := valueTree heap snapshots room (.container id :: path)
        match heap.get? id with
        | some (.list items) | some (.tuple items) =>
          match itemTrees tree items with
          | .ok js => .ok (.array js)
          | .error r => .error r
        | some (.dict entries) =>
          match memberTrees tree [] entries with
          | .ok members => .ok (.object members)
          | .error r => .error r
        | none => .error .deep
      | .snapshot id =>
        match snapshots[id]? with
        | some s => framesTree heap snapshots room (.snapshot id :: path) (some id) s.frames
        | none => .error .deep
      | v => scalarTree v

def framesTree (heap : Heap) (snapshots : Array Snapshot) (room : Nat) (path : List Node)
    (owner : Option SnapshotId) (frames : List Frame) : Except Refusal Json :=
  match frames with
  | [] => .ok .null
  | frame :: rest =>
    let owner := ownerOf snapshots owner frame.depth
    let node := owner.map fun id => Node.frame id frame.depth
    if node.any path.contains then .error .cyclic
    else
      match room with
      | 0 => .error .deep
      | room + 1 =>
        let path := node.toList ++ path
        match entryTrees (valueTree heap snapshots room path) frame.entries with
        | .error r => .error r
        | .ok members =>
          match framesTree heap snapshots room path owner rest with
          | .ok parent => .ok (frameTree frame members parent)
          | .error r => .error r
end

/-- The tree of a snapshot. -/
def toTree (heap : Heap) (snapshots : Array Snapshot) (s : Snapshot) : Except Refusal Json :=
  framesTree heap snapshots levelLimit [] none s.frames

end Snapshot
end ScopeChain
