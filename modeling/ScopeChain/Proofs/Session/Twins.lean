/-
Operations on paired scopes.

Two sessions that are the same but for their forests, which are paired by a map of scopes, give
the same answers to an operation and to its image, scopes answered going along the map, and
are such sessions again.  So it is for all runs.
-/
import ScopeChain.Proofs.Scope.Paired
import ScopeChain.Proofs.Session.Configured
import ScopeChain.Proofs.Snapshot.Capture
import ScopeChain.Session.Step

namespace ScopeChain

/-! ## Images -/

namespace ScopeOp

def image (m : ScopeId → ScopeId) : ScopeOp → ScopeOp
  | .create p => .create (p.map m)
  | .top receiver => .top receiver
  | .child b => .child (m b)
  | .descend b count => .descend (m b) count
  | .isGlobal b => .isGlobal (m b)
  | .root b => .root (m b)
  | .parent b => .parent (m b)
  | .depth b => .depth (m b)
  | .chain b => .chain (m b)
  | .localNames b => .localNames (m b)
  | .visibleNames b => .visibleNames (m b)
  | .localItems b => .localItems (m b)
  | .describe b => .describe (m b)
  | .self b => .self (m b)
  | .context b => .context (m b)
  | .get b name => .get (m b) name
  | .metadata b name => .metadata (m b) name
  | .defines b name => .defines (m b) name
  | .resolves b name => .resolves (m b) name
  | .set b name value d => .set (m b) name value d
  | .setGlobal b name value => .setGlobal (m b) name value

/-- Whether the receiver of an operation is among some scopes.  Only operations that have a
scope for a receiver count, and of those that make scopes only the one that makes a child. -/
def On (among : ScopeId → Prop) : ScopeOp → Prop
  | .create _ | .top _ | .descend _ _ => False
  | .child b | .isGlobal b | .root b | .parent b | .depth b | .chain b | .localNames b
  | .visibleNames b | .localItems b | .describe b | .self b | .context b | .get b _
  | .metadata b _ | .defines b _ | .resolves b _ | .set b _ _ _ | .setGlobal b _ _ => among b

end ScopeOp

namespace Op

def image (m : ScopeId → ScopeId) : Op → Op
  | .scope op => .scope (op.image m)
  | .snapshot (.capture b) => .snapshot (.capture (m b))
  | .snapshot (.serialize b) => .snapshot (.serialize (m b))
  | op => op

def On (among : ScopeId → Prop) : Op → Prop
  | .scope op => op.On among
  | .snapshot (.capture b) | .snapshot (.serialize b) => among b
  | _ => False

end Op

def Reply.image (m : ScopeId → ScopeId) : Reply → Reply
  | .scope b => .scope (m b)
  | .scopes bs => .scopes (bs.map m)
  | r => r

def Outcome.image (m : ScopeId → ScopeId) (o : Outcome) : Outcome :=
  ⟨o.answer.map (Reply.image m), o.log⟩

namespace Session

/-! ## Pairs of sessions -/

/-- Sessions with the same configuration at hand that differ in their forests only, and
those are paired. -/
structure Twins (m : ScopeId → ScopeId) (among : ScopeId → Prop) (s t : Session) : Prop where
  kept : ∃ c, s.config = some c
  same : t = { s with forest := t.forest }
  forest : s.forest.Paired m among t.forest

structure Alike (m : ScopeId → ScopeId) (among : ScopeId → Prop) (r r' : Session × Outcome) :
    Prop where
  twins : Twins m among r.1 r'.1
  outcome : r'.2 = r.2.image m

theorem withConfig_of_kept {s : Session} {c : Config} (kept : s.config = some c)
    (next : Session → Config → Session × Outcome) : s.withConfig next = next s c := by
  rw [withConfig, current_of_config kept]

section Step

variable {m : ScopeId → ScopeId} {among : ScopeId → Prop} {s : Session} {g : Forest} {c : Config}
  {b : ScopeId}

theorem Alike.same (kept : s.config = some c) (paired : s.forest.Paired m among g)
    {o o' : Outcome} (outcome : o' = o.image m) :
    Alike m among (s, o) ({ s with forest := g }, o') :=
  ⟨⟨⟨c, kept⟩, rfl, paired⟩, outcome⟩

theorem Alike.withScope (kept : s.config = some c) (paired : s.forest.Paired m among g)
    (hb : among b) {r r' : Session × Outcome} (h : b < s.forest.size → Alike m among r r') :
    Alike m among (s.withScope b r) (({ s with forest := g } : Session).withScope (m b) r') := by
  have hiff : m b < g.size ↔ b < s.forest.size := by
    rw [paired.size]
    exact paired.present b hb
  rw [Session.withScope, Session.withScope]
  by_cases lt : b < s.forest.size
  · rw [if_pos lt, if_pos (hiff.mpr lt)]
    exact h lt
  · rw [if_neg lt, if_neg fun h => lt (hiff.mp h)]
    exact .same kept paired rfl

theorem Alike.lookup (kept : s.config = some c) (paired : s.forest.Paired m among g)
    (hb : among b) (name : String) :
    Alike m among (s.lookup b name) (({ s with forest := g } : Session).lookup (m b) name) := by
  rw [Session.lookup, Session.lookup, paired.get hb]
  cases s.forest.get b name with
  | some v => exact .same kept paired rfl
  | none =>
    refine .same kept paired ?_
    rw [paired.depth hb]
    rfl

/-- A scope is its own root exactly if its image is. -/
theorem globalWriteLog_image (paired : s.forest.Paired m among g) (hb : among b)
    (name : String) :
    ({ s with forest := g } : Session).globalWriteLog (m b) name = s.globalWriteLog b name := by
  have hiff : m (s.forest.root b) = m b ↔ s.forest.root b = b :=
    ⟨paired.injective _ _ (paired.among_root hb) hb, congrArg m⟩
  simp only [globalWriteLog, paired.root hb, paired.depth hb, hiff]

theorem alike_scopeStep (kept : s.config = some c) (paired : s.forest.Paired m among g)
    {op : ScopeOp} (on : op.On among) :
    Alike m among (s.scopeStep op)
      (({ s with forest := g } : Session).scopeStep (op.image m)) := by
  cases op with
  | create parent => exact on.elim
  | top receiver => exact on.elim
  | descend b count => exact on.elim
  | child b =>
    refine .withScope kept paired on fun lt => ?_
    rw [withConfig_of_kept kept, withConfig_of_kept (s := { s with forest := g }) kept]
    refine ⟨⟨⟨c, kept⟩, rfl, paired.add on lt⟩, ?_⟩
    have hnew : m s.forest.size = g.size :=
      (paired.fresh _ (Nat.le_refl _)).2.trans paired.size.symm
    show Outcome.reply (.scope g.size) = Outcome.reply (.scope (m s.forest.size))
    rw [hnew]
  | isGlobal b =>
    refine .withScope kept paired on fun _ => .same kept paired ?_
    rw [paired.isGlobal on]
    rfl
  | root b =>
    refine .withScope kept paired on fun _ => .same kept paired ?_
    rw [paired.root on]
    rfl
  | parent b =>
    refine .withScope kept paired on fun _ => ?_
    rw [paired.parent? b on]
    cases s.forest.parent? b with
    | some p => exact .same kept paired rfl
    | none => exact .same kept paired rfl
  | depth b =>
    refine .withScope kept paired on fun _ => .same kept paired ?_
    rw [paired.depth on]
    rfl
  | chain b =>
    refine .withScope kept paired on fun _ => .same kept paired ?_
    rw [paired.chain on]
    rfl
  | localNames b =>
    refine .withScope kept paired on fun _ => .same kept paired ?_
    rw [paired.locals b on]
    rfl
  | visibleNames b =>
    refine .withScope kept paired on fun _ => .same kept paired ?_
    rw [paired.visibleNames on]
    rfl
  | localItems b =>
    refine .withScope kept paired on fun _ => .same kept paired ?_
    rw [paired.locals b on]
    rfl
  | describe b =>
    refine .withScope kept paired on fun _ => .same kept paired ?_
    unfold Session.describe
    rw [paired.locals b on, paired.depth on]
    rfl
  | self b =>
    refine .withScope kept paired on fun _ => ?_
    rw [withConfig_of_kept kept, withConfig_of_kept (s := { s with forest := g }) kept]
    exact .lookup kept paired on c.selfName
  | context b =>
    refine .withScope kept paired on fun _ => ?_
    rw [withConfig_of_kept kept, withConfig_of_kept (s := { s with forest := g }) kept]
    exact .lookup kept paired on c.contextName
  | get b name => exact .withScope kept paired on fun _ => .lookup kept paired on name
  | metadata b name =>
    refine .withScope kept paired on fun _ => ?_
    rw [paired.metadata on]
    cases s.forest.metadata b name with
    | some m => exact .same kept paired rfl
    | none => exact .same kept paired rfl
  | defines b name =>
    refine .withScope kept paired on fun _ => .same kept paired ?_
    rw [paired.locals b on]
    rfl
  | resolves b name =>
    refine .withScope kept paired on fun _ => .same kept paired ?_
    rw [paired.resolves on]
    rfl
  | set b name value metadata =>
    refine .withScope kept paired on fun lt => ?_
    exact ⟨⟨⟨c, kept⟩, rfl, paired.write on lt name value (metadata.map dictOf)⟩, rfl⟩
  | setGlobal b name value =>
    refine .withScope kept paired on fun lt => ?_
    have hroot := paired.among_root on
    rw [paired.root on]
    refine ⟨⟨⟨c, kept⟩, rfl, paired.write hroot (Forest.root_lt lt) name value none⟩, ?_⟩
    rw [globalWriteLog_image paired on]
    rfl

theorem captureFrame_image {f : Forest} (paired : f.Paired m among g) (hb : among b) (depth : Nat)
    (parent : Option Snapshot) :
    Snapshot.captureFrame g depth (m b) parent = Snapshot.captureFrame f depth b parent := by
  rw [Snapshot.captureFrame, Snapshot.captureFrame, paired.locals b hb, paired.isGlobal hb]

theorem captureChain_image {f : Forest} (paired : f.Paired m among g) {cs : List ScopeId}
    (h : ∀ d ∈ cs, among d) :
    Snapshot.captureChain g (cs.map m) = Snapshot.captureChain f cs := by
  induction cs with
  | nil => rfl
  | cons d rest ih =>
    have hframe := captureFrame_image paired (h d List.mem_cons_self)
    simp only [List.map_cons, Snapshot.captureChain, List.length_map, hframe,
      ih fun e he => h e (List.mem_cons_of_mem _ he)]

/-- A chain and its image are captured as the same snapshot. -/
theorem capture_image {f : Forest} (paired : f.Paired m among g) (hb : among b) :
    Snapshot.capture g (m b) = Snapshot.capture f b := by
  have henclosing : g.enclosing (m b) = (f.enclosing b).map m := by
    rw [Forest.enclosing, Forest.enclosing, paired.chain hb, List.map_tail]
  have houter : ∀ d ∈ f.enclosing b, among d := fun d hd =>
    paired.among_of_mem_chain hb d (List.mem_of_mem_tail hd)
  simp only [Snapshot.capture, henclosing, captureChain_image paired houter,
    captureFrame_image paired hb, paired.depth hb]

theorem Alike.withCapture (kept : s.config = some c) (paired : s.forest.Paired m among g)
    (hb : among b) {next : Session → Snapshot → Session × Outcome}
    (h : ∀ snapshot, Alike m among (next s snapshot) (next { s with forest := g } snapshot)) :
    Alike m among (s.withCapture b next)
      (({ s with forest := g } : Session).withCapture (m b) next) := by
  rw [Session.withCapture, Session.withCapture, withConfig_of_kept kept,
    withConfig_of_kept (s := { s with forest := g }) kept]
  simp only [paired.depth hb, capture_image paired hb]
  split
  next => exact .same kept paired rfl
  next =>
    cases Snapshot.capture s.forest b with
    | error faults => exact .same kept paired rfl
    | ok snapshot => exact h snapshot

theorem alike_step (kept : s.config = some c) (paired : s.forest.Paired m among g) {op : Op}
    (on : op.On among) :
    Alike m among (s.step op) (({ s with forest := g } : Session).step (op.image m)) := by
  cases op with
  | scope op => exact alike_scopeStep kept paired on
  | script op => exact on.elim
  | host op => exact on.elim
  | settings op => exact on.elim
  | snapshot op =>
    cases op with
    | capture b =>
      -- Both check for the scope in the same way as other operations do.
      refine .withScope kept paired on fun _ => .withCapture kept paired on fun snapshot => ?_
      exact ⟨⟨⟨c, kept⟩, rfl, paired⟩, rfl⟩
    | serialize b =>
      refine .withScope kept paired on fun _ => .withCapture kept paired on fun snapshot => ?_
      have hwrite : ({ s with forest := g } : Session).write snapshot = s.write snapshot := rfl
      simp only [hwrite]
      cases s.write snapshot with
      | ok text => exact .same kept paired rfl
      | error r => exact .same kept paired rfl
    | restore id => exact on.elim
    | scopeCount id => exact on.elim
    | frames id => exact on.elim
    | make fields => exact on.elim
    | makeEntry fields => exact on.elim
    | deserialize text => exact on.elim
    | load data => exact on.elim

end Step

/-- Twins stay twins in a run of operations and in the run of their images, and all outcomes
correspond. -/
theorem twins_run {m : ScopeId → ScopeId} {among : ScopeId → Prop} {s t : Session}
    (twins : Twins m among s t) {ops : List Op} (on : ∀ op ∈ ops, op.On among) :
    Twins m among (s.run ops).1 (t.run (ops.map (Op.image m))).1 ∧
      (t.run (ops.map (Op.image m))).2 = (s.run ops).2.map (Outcome.image m) := by
  induction ops generalizing s t with
  | nil => exact ⟨twins, rfl⟩
  | cons op rest ih =>
    obtain ⟨⟨c, kept⟩, same, paired⟩ := twins
    have halike := alike_step kept paired (on op List.mem_cons_self)
    rw [← same] at halike
    obtain ⟨htwins, houtcomes⟩ := ih halike.twins fun o ho => on o (List.mem_cons_of_mem _ ho)
    refine ⟨htwins, ?_⟩
    show (t.step (op.image m)).2 :: _ = (s.step op).2.image m :: _
    rw [halike.outcome]
    exact congrArg _ houtcomes

end Session
end ScopeChain
