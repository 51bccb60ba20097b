/-
What ordinary operations keep.

Operations on scopes, scripts and snapshots keep the configuration once it is loaded, and every
snapshot and every container as it is.  So do all runs of them, in which new values may be made.
Of all other operations only a reload drops the configuration.
-/
import ScopeChain.Proofs.Session.Lasting

namespace ScopeChain

/-- Whether an event is an operation on scopes, scripts or snapshots, or makes a value.  What is
not ordinary changes a container, or has to do with settings. -/
def Event.Ordinary : Event → Prop
  | .make _ | .op (.scope _) | .op (.script _) | .op (.snapshot _) | .op (.host (.give _)) => True
  | .op (.host (.append ..)) | .op (.host (.put ..)) | .op (.settings _) => False

namespace Session

structure Keeps (s t : Session) : Prop where
  config : ∀ c : Config, s.config = some c → t.config = some c
  snapshots : ∀ (id : SnapshotId) (snapshot : Snapshot),
    s.snapshots[id]? = some snapshot → t.snapshots[id]? = some snapshot
  heap : s.heap.Within t.heap

namespace Keeps

variable {s t : Session} {r : Session × Outcome}

theorem refl (s : Session) : s.Keeps s := ⟨fun _ h => h, fun _ _ h => h, Heap.within_refl s.heap⟩

theorem trans {u : Session} (first : s.Keeps t) (second : t.Keeps u) : s.Keeps u where
  config c h := second.config c (first.config c h)
  snapshots id snapshot h := second.snapshots id snapshot (first.snapshots id snapshot h)
  heap := first.heap.trans second.heap

/-! ## Rules -/

theorem same (config : t.config = s.config) (snapshots : t.snapshots = s.snapshots)
    (heap : t.heap = s.heap) : s.Keeps t where
  config c h := config.trans h
  snapshots id snapshot h := by rw [snapshots, h]
  heap := by
    rw [heap]
    exact Heap.within_refl s.heap

theorem configure {c : Config} (loaded : s.configuration = .ok c) :
    s.Keeps { s with config := some c } where
  config d h := by
    rw [configuration_of_kept h] at loaded
    cases loaded
    rfl
  snapshots _ _ h := h
  heap := Heap.within_refl s.heap

theorem grow {heap : Heap} (grown : s.heap.Within heap) : s.Keeps { s with heap } where
  config _ h := h
  snapshots _ _ h := h
  heap := grown

theorem push (s : Session) (snapshot : Snapshot) :
    s.Keeps { s with snapshots := s.snapshots.push snapshot } where
  config _ h := h
  snapshots id found h := by
    have hlt : id < s.snapshots.size := (Array.getElem?_eq_some_iff.mp h).1
    rw [Array.getElem?_push, if_neg (Nat.ne_of_lt hlt), h]
  heap := Heap.within_refl s.heap

theorem withConfig {next : Session → Config → Session × Outcome}
    (h : ∀ c, Keeps { s with config := some c } (next { s with config := some c } c).1) :
    s.Keeps (s.withConfig next).1 := by
  rcases withConfig_cases s next with ⟨c, hc, heq⟩ | ⟨e, -, heq⟩
  · rw [heq]
    exact (configure hc).trans (h c)
  · rw [heq]
    exact refl s

theorem withScope {b : ScopeId} (h : s.Keeps r.1) : s.Keeps (s.withScope b r).1 := by
  rw [Session.withScope]
  split
  next => exact h
  next => exact refl s

theorem withScript {id : ScriptId} {next : Script → Session × Outcome}
    (h : ∀ script, s.Keeps (next script).1) : s.Keeps (s.withScript id next).1 := by
  rw [Session.withScript]
  split
  next script _ => exact h script
  next => exact refl s

theorem withSnapshot {id : SnapshotId} {next : Snapshot → Session × Outcome}
    (h : ∀ snapshot, s.Keeps (next snapshot).1) : s.Keeps (s.withSnapshot id next).1 := by
  rw [Session.withSnapshot]
  split
  next snapshot _ => exact h snapshot
  next => exact refl s

theorem lookup (s : Session) (b : ScopeId) (name : String) : s.Keeps (s.lookup b name).1 := by
  rw [Session.lookup]
  split
  next => exact refl s
  next => exact refl s

theorem withReceiver {b : ScopeId} {receiver : Value} {next : Session → Value → Session × Outcome}
    (h : ∀ (s : Session) (v : Value), s.Keeps (next s v).1) :
    s.Keeps (s.withReceiver b receiver next).1 := by
  rw [Session.withReceiver]
  split
  next => exact h s receiver
  next =>
    refine withConfig fun c => ?_
    split
    next v _ => exact h _ v
    next => exact lookup _ _ _

theorem withCapture {b : ScopeId} {next : Session → Snapshot → Session × Outcome}
    (h : ∀ (s : Session) (snapshot : Snapshot), s.Keeps (next s snapshot).1) :
    s.Keeps (s.withCapture b next).1 := by
  refine withConfig fun c => ?_
  simp only
  split
  next => exact refl _
  next =>
    split
    next => exact refl _
    next snapshot _ => exact h _ snapshot

end Keeps

/-! ## Operations -/

variable {s : Session}

theorem keeps_scopeStep (s : Session) (op : ScopeOp) : s.Keeps (s.scopeStep op).1 := by
  cases op with
  | create parent =>
    cases parent with
    | none => exact .withConfig fun _ => .same rfl rfl rfl
    | some p => exact .withScope (.withConfig fun _ => .same rfl rfl rfl)
  | top receiver => exact .withConfig fun _ => .same rfl rfl rfl
  | child p => exact .withScope (.withConfig fun _ => .same rfl rfl rfl)
  | descend p count =>
    cases count with
    | zero => exact .withScope (.refl s)
    | succ count =>
      refine .withScope (.withConfig fun c => ?_)
      obtain ⟨g, heq, -⟩ := becomes_addScopes { s with config := some c } p (count + 1)
      simp only [Session.answer, heq]
      exact .same rfl rfl rfl
  | parent b =>
    refine .withScope ?_
    split
    next => exact .refl s
    next => exact .refl s
  | metadata b name =>
    refine .withScope ?_
    split
    next => exact .refl s
    next => exact .refl s
  | self b => exact .withScope (.withConfig fun _ => .lookup _ _ _)
  | context b => exact .withScope (.withConfig fun _ => .lookup _ _ _)
  | get b name => exact .withScope (.lookup s b name)
  | set b name value metadata => exact .withScope (.same rfl rfl rfl)
  | setGlobal b name value => exact .withScope (.same rfl rfl rfl)
  | _ => exact .withScope (.refl s)

theorem keeps_scriptStep (s : Session) (op : ScriptOp) : s.Keeps (s.scriptStep op).1 := by
  cases op with
  | create b context => exact .withScope (.same rfl rfl rfl)
  | build receiver context => exact .withConfig fun _ => .same rfl rfl rfl
  | child id lexical context receiver =>
    refine .withScript fun script => ?_
    cases lexical with
    | false => exact .same rfl rfl rfl
    | true => exact .withReceiver fun _ _ => .withConfig fun _ => .same rfl rfl rfl
  | scope id => exact .withScript fun _ => .refl s
  | context id => exact .withScript fun _ => .refl s
  | self id => exact .withScript fun _ => .withConfig fun _ => .lookup _ _ _
  | get id name => exact .withScript fun _ => .lookup s _ _
  | set id name value => exact .withScript fun _ => .same rfl rfl rfl
  | setGlobal id name value => exact .withScript fun _ => .same rfl rfl rfl

theorem keeps_loadFrom {heap : Heap} (grown : s.heap.Within heap) (data : Value) :
    s.Keeps (s.loadFrom heap data).1 := by
  rw [loadFrom]
  split
  next => exact .refl s
  next snapshot _ =>
    cases hc : s.configuration with
    | ok c =>
      rw [current_of_ok hc]
      exact (Keeps.configure hc).trans
        ((Keeps.grow (s := { s with config := some c }) grown).trans (.same rfl rfl rfl))
    | error e =>
      rw [current_of_error hc]
      exact .refl s

theorem keeps_snapshotStep (s : Session) (op : SnapshotOp) : s.Keeps (s.snapshotStep op).1 := by
  cases op with
  | capture b =>
    rw [snapshotStep]
    split
    next => exact .withCapture fun s snapshot => .push s snapshot
    next => exact .refl s
  | restore id =>
    exact .withSnapshot fun _ => .withConfig fun _ => .same rfl rfl rfl
  | scopeCount id => exact .withSnapshot fun _ => .refl s
  | frames id => exact .withSnapshot fun _ => .refl s
  | make fields =>
    rw [snapshotStep]
    split
    next snapshot _ => exact .push s snapshot
    next => exact .refl s
  | makeEntry fields =>
    rw [snapshotStep]
    split
    next => exact .refl s
    next => exact .refl s
  | serialize b =>
    rw [snapshotStep]
    split
    next =>
      refine .withCapture fun s snapshot => ?_
      simp only
      split
      next => exact .refl s
      next => exact .refl s
    next => exact .refl s
  | deserialize text =>
    rw [snapshotStep]
    cases Json.read text.toList with
    | error stop => exact .refl s
    | ok tree => exact keeps_loadFrom (Heap.within_ofJson tree s.heap) _
  | load data => exact keeps_loadFrom (Heap.within_refl s.heap) data

theorem keeps_after {event : Event} (ordinary : event.Ordinary) : s.Keeps (s.after event) := by
  cases event with
  | make c => exact .grow (Heap.within_alloc s.heap c.made)
  | op op =>
    cases op with
    | scope op => exact keeps_scopeStep s op
    | script op => exact keeps_scriptStep s op
    | snapshot op => exact keeps_snapshotStep s op
    | host op =>
      cases op with
      | give v => exact .refl s
      | append id v => exact ordinary.elim
      | put id key v => exact ordinary.elim
    | settings op => exact ordinary.elim

theorem keeps_afterAll {events : List Event} (ordinary : ∀ event ∈ events, event.Ordinary) :
    s.Keeps (s.afterAll events) := by
  induction events generalizing s with
  | nil => exact .refl s
  | cons event rest ih =>
    exact (keeps_after (ordinary event List.mem_cons_self)).trans
      (ih fun e he => ordinary e (List.mem_cons_of_mem _ he))

/-! ## The configuration -/

theorem config_after {event : Event} (same : event ≠ .op (.settings .reload)) {c : Config}
    (kept : s.config = some c) : (s.after event).config = some c := by
  have hordinary : event.Ordinary → (s.after event).config = some c := fun ordinary =>
    (keeps_after ordinary).config c kept
  cases event with
  | make container => exact kept
  | op op =>
    cases op with
    | scope op => exact hordinary trivial
    | script op => exact hordinary trivial
    | snapshot op => exact hordinary trivial
    | host op =>
      show (s.hostStep op).1.config = some c
      rcases hostStep_cases s op with ⟨heap, v, heq⟩ | heq
      · rw [heq]
        exact kept
      · rw [heq]
        exact kept
    | settings op =>
      cases op with
      | setVariable name value => exact kept
      | setFile file => exact kept
      | current =>
        show (s.withConfig fun s c => s.answer (.config c)).1.config = some c
        rw [withConfig_of_ok (configuration_of_kept kept)]
        rfl
      | reload => exact absurd rfl same
      | make arguments =>
        show (s.settingsStep (.make arguments)).1.config = some c
        rw [settingsStep]
        split
        next => exact kept
        next => exact kept

theorem config_afterAll {events : List Event} (same : .op (.settings .reload) ∉ events)
    {c : Config} (kept : s.config = some c) : (s.afterAll events).config = some c := by
  induction events generalizing s with
  | nil => exact kept
  | cons event rest ih =>
    have hevent : event ≠ .op (.settings .reload) := fun h => same (h ▸ List.mem_cons_self)
    exact ih (fun h => same (List.mem_cons_of_mem _ h)) (config_after hevent kept)

end Session
end ScopeChain
