/-
The writes of an operation.

A write binds a name in one scope.  What a forest holds after an operation is what it held
before and the writes of the operation, each scope those that go to it, in their order.
-/
import ScopeChain.Proofs.Session.Configured
import ScopeChain.Proofs.Snapshot.Restore
import ScopeChain.Session.Step

namespace ScopeChain

structure Write where
  scope : ScopeId
  name : String
  value : Value
  metadata : Option Metadata

namespace Write

def apply (b : ScopeId) (l : Locals) (w : Write) : Locals :=
  if w.scope = b then l.set w.name w.value w.metadata else l

def replay (b : ScopeId) (ws : List Write) (l : Locals) : Locals := ws.foldl (apply b) l

theorem replay_append (b : ScopeId) (ws us : List Write) (l : Locals) :
    replay b (ws ++ us) l = replay b us (replay b ws l) :=
  List.foldl_append

def ofEntry (b : ScopeId) (e : Entry) : Write := ⟨b, e.name, e.value, e.metadata⟩

end Write

open Write (replay)

namespace Forest

/-- Whether a forest is what another becomes by writes and new scopes. -/
structure Becomes (f : Forest) (ws : List Write) (g : Forest) : Prop extends Extends f g where
  locals : ∀ b, g.locals b = replay b ws (f.locals b)

namespace Becomes

theorem refl (f : Forest) : f.Becomes [] f := ⟨.refl f, fun _ => rfl⟩

theorem trans {f g k : Forest} {ws us : List Write} (first : f.Becomes ws g)
    (second : g.Becomes us k) : f.Becomes (ws ++ us) k where
  toExtends := first.toExtends.trans second.toExtends
  locals b := by rw [second.locals, first.locals, Write.replay_append]

theorem add (f : Forest) (parent : Option ScopeId) : f.Becomes [] (f.add parent).2 where
  toExtends := .add f parent
  locals := locals_add f parent

theorem write {f : Forest} {b : ScopeId} (lt : b < f.size) (name : String) (value : Value)
    (metadata : Option Metadata) :
    f.Becomes [⟨b, name, value, metadata⟩] (f.write b name value metadata) where
  toExtends := .write ..
  locals c := by
    show _ = Write.apply c (f.locals c) ⟨b, name, value, metadata⟩
    rw [Write.apply]
    by_cases h : b = c
    · subst h
      rw [if_pos rfl, locals_write_self lt]
    · rw [if_neg h, locals_write_of_ne f (Ne.symm h)]

theorem writeAll {f : Forest} {b : ScopeId} (lt : b < f.size) (entries : List Entry) :
    f.Becomes (entries.map (Write.ofEntry b)) (f.writeAll b entries) := by
  induction entries generalizing f with
  | nil => exact .refl f
  | cons e rest ih =>
    refine trans (write lt e.name e.value e.metadata) (ih ?_)
    rw [size_write]
    exact lt

theorem addThen {f g : Forest} {parent : Option ScopeId} {ws : List Write}
    (h : f.size < (f.add parent).2.size → (f.add parent).2.Becomes ws g) : f.Becomes ws g := by
  refine (add f parent).trans (h ?_)
  rw [size_add]
  exact Nat.lt_succ_self _

end Becomes
end Forest

namespace Snapshot

/-- What rebuilding frames writes, the last frame first.  Each goes to a new scope, and there
are as many new scopes before it as there are frames behind it. -/
def frameWrites (base : ScopeId) : List Frame → List Write
  | [] => []
  | frame :: outer =>
    frameWrites base outer ++ frame.entries.map (Write.ofEntry (base + outer.length))

theorem becomes_restoreFrames (f : Forest) (frames : List Frame) :
    f.Becomes (frameWrites f.size frames) (restoreFrames f frames).2 := by
  induction frames with
  | nil => exact .refl f
  | cons frame outer ih =>
    refine ih.trans ?_
    rw [← (rebuilt_restoreFrames f outer).size]
    exact .addThen fun lt => .writeAll lt frame.entries

theorem becomes_restore (f : Forest) (s : Snapshot) :
    f.Becomes (frameWrites f.size s.frames) (s.restore f).2 :=
  becomes_restoreFrames f s.frames

end Snapshot

namespace Session

def configured (s : Session) (ws : Config → List Write) : List Write :=
  match s.configuration with
  | .ok c => ws c
  | .error _ => []

def loadWrites (s : Session) (heap : Heap) (data : Value) : List Write :=
  match Snapshot.ofValue heap s.snapshots data with
  | .ok snapshot => Snapshot.frameWrites s.forest.size snapshot.frames
  | .error _ => []

/-- What an operation writes if it succeeds.

A write goes to the receiver, and a global one to the last scope of its chain.  A new
top-level scope gets its receiver, and the scope of a lexical script its context and then its
receiver.  A chain that is rebuilt gets what its frames hold.  No other operation writes. -/
def intended (s : Session) : Op → List Write
  | .scope (.set b name value metadata) => [⟨b, name, value, metadata.map dictOf⟩]
  | .scope (.setGlobal b name value) => [⟨(s.forest.chain b).getLastD b, name, value, none⟩]
  | .scope (.top receiver) | .script (.build receiver _) =>
    s.configured fun c => [⟨s.forest.size, c.selfName, receiver, none⟩]
  | .script (.child id true context receiver) =>
    match s.scripts[id]? with
    | some script => s.configured fun c =>
      [⟨s.forest.size, c.contextName, if isGiven context then context else script.context, none⟩,
        ⟨s.forest.size, c.selfName, if isGiven receiver then receiver
          else (s.forest.get script.scope c.selfName).getD .null, none⟩]
    | none => []
  | .script (.set id name value) =>
    match s.scripts[id]? with
    | some script => [⟨script.scope, name, value, none⟩]
    | none => []
  | .script (.setGlobal id name value) =>
    match s.scripts[id]? with
    | some script => [⟨(s.forest.chain script.scope).getLastD script.scope, name, value, none⟩]
    | none => []
  | .snapshot (.restore id) =>
    match s.snapshots[id]? with
    | some snapshot => Snapshot.frameWrites s.forest.size snapshot.frames
    | none => []
  | .snapshot (.deserialize text) =>
    match Json.read text.toList with
    | .ok tree => s.loadWrites (s.heap.ofJson tree).2 (s.heap.ofJson tree).1
    | .error _ => []
  | .snapshot (.load data) => s.loadWrites s.heap data
  | _ => []

def writes (s : Session) (op : Op) : List Write :=
  match (s.step op).2.answer with
  | .ok _ => s.intended op
  | .error _ => []

end Session
end ScopeChain
