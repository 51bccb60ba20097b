/-
What one operation does.

Whatever the operation is, scopes stay and keep their parents, the variables change by its
writes if it succeeds and not at all if it fails, and scripts and snapshots are only added.
The heap changes by the operations of the host, and by the containers that a text is read
into.
-/
import ScopeChain.Proofs.Session.Writes

namespace ScopeChain

inductive Heap.Next (h : Heap) : Heap → Prop where
  | same : Next h h
  | append {h' : Heap} {id : ContainerId} {v : Value} (done : h.append id v = some h') : Next h h'
  | put {h' : Heap} {id : ContainerId} {key : Key} {v : Value} (done : h.put id key v = some h') :
    Next h h'
  | read {cs : List Char} {tree : Json} (legible : Json.read cs = .ok tree) :
    Next h (h.ofJson tree).2

namespace Session

variable {s : Session} {ws : List Write} {r : Session × Outcome}

inductive Makes (s : Session) (snapshot : Snapshot) : Prop where
  | captured (b : ScopeId) (captured : Snapshot.capture s.forest b = .ok snapshot)
  | checked (fields : Metadata)
    (checked : Snapshot.ofFields s.heap s.snapshots fields = .ok snapshot)

/-- The effect of an operation that writes `ws` if it succeeds. -/
structure Effect (s : Session) (ws : List Write) (r : Session × Outcome) : Prop where
  heap : s.heap.Next r.1.heap
  done : ∀ a, r.2.answer = .ok a → s.forest.Becomes ws r.1.forest
  failed : ∀ e, r.2.answer = .error e → r.1.forest = s.forest
  scripts : ∀ script ∈ r.1.scripts, script ∈ s.scripts ∨ script.scope < r.1.forest.size
  snapshots : ∀ snapshot ∈ r.1.snapshots, snapshot ∈ s.snapshots ∨ s.Makes snapshot

namespace Effect

theorem forest (h : Effect s ws r) : s.forest.Extends r.1.forest := by
  cases ha : r.2.answer with
  | ok a => exact (h.done a ha).toExtends
  | error e =>
    rw [h.failed e ha]
    exact .refl _

/-! ## Rules -/

/-- An operation that succeeds and changes the forest only. -/
theorem becomes {g : Forest} (h : s.forest.Becomes ws g) (a : Reply) (log : List Record) :
    Effect s ws ({ s with forest := g }, ⟨.ok a, log⟩) where
  heap := .same
  done _ _ := h
  failed _ e := nomatch e
  scripts _ mem := Or.inl mem
  snapshots _ mem := Or.inl mem

theorem fail (s : Session) (ws : List Write) (e : Failure) (log : List Record) :
    Effect s ws (s, ⟨.error e, log⟩) where
  heap := .same
  done _ h := nomatch h
  failed _ _ := rfl
  scripts _ mem := Or.inl mem
  snapshots _ mem := Or.inl mem

theorem answer (s : Session) (a : Reply) : Effect s [] (s.answer a) := becomes (.refl _) a []

theorem lookup (s : Session) (b : ScopeId) (name : String) : Effect s [] (s.lookup b name) := by
  rw [Session.lookup]
  split
  next => exact answer s _
  next => exact fail s [] _ _

theorem keep {c : Option Config} (h : Effect { s with config := c } ws r) : Effect s ws r where
  heap := h.heap
  done := h.done
  failed := h.failed
  scripts := h.scripts
  snapshots snapshot mem := (h.snapshots snapshot mem).imp id fun
    | .captured b captured => .captured b captured
    | .checked fields checked => .checked fields checked

theorem withConfig {next : Session → Config → Session × Outcome}
    (h : ∀ c, s.configuration = .ok c →
      Effect { s with config := some c } ws (next { s with config := some c } c)) :
    Effect s ws (s.withConfig next) := by
  rcases withConfig_cases s next with ⟨c, hc, heq⟩ | ⟨e, -, heq⟩
  · rw [heq]
    exact (h c hc).keep
  · rw [heq]
    exact fail s ws _ _

theorem withScope {b : ScopeId} (h : b < s.forest.size → Effect s ws r) :
    Effect s ws (s.withScope b r) := by
  rw [Session.withScope]
  split
  next lt => exact h lt
  next => exact fail s ws _ _

theorem withScript {id : ScriptId} {next : Script → Session × Outcome}
    (h : ∀ script, s.scripts[id]? = some script → Effect s ws (next script)) :
    Effect s ws (s.withScript id next) := by
  rw [Session.withScript]
  split
  next script found => exact h script found
  next => exact fail s ws _ _

theorem withSnapshot {id : SnapshotId} {next : Snapshot → Session × Outcome}
    (h : ∀ snapshot, s.snapshots[id]? = some snapshot → Effect s ws (next snapshot)) :
    Effect s ws (s.withSnapshot id next) := by
  rw [Session.withSnapshot]
  split
  next snapshot found => exact h snapshot found
  next => exact fail s ws _ _

/-- The receiver is the one that is given, or else the one that is found. -/
theorem withReceiver {b : ScopeId} {receiver : Value} {next : Session → Value → Session × Outcome}
    (given : isGiven receiver → Effect s ws (next s receiver))
    (found : ∀ c v, ¬ isGiven receiver → s.configuration = .ok c →
      s.forest.get b c.selfName = some v →
        Effect { s with config := some c } ws (next { s with config := some c } v)) :
    Effect s ws (s.withReceiver b receiver next) := by
  rw [Session.withReceiver]
  split
  next hgiven => exact given hgiven
  next hmissing =>
    refine withConfig fun c hc => ?_
    cases hget : s.forest.get b c.selfName with
    | some v => exact found c v hmissing hc hget
    | none =>
      simp only [Session.lookup, hget]
      exact fail _ ws _ _

theorem addScript {g : Forest} {script : Script} (h : s.forest.Becomes ws g)
    (lt : script.scope < g.size) :
    Effect s ws (({ s with forest := g } : Session).addScript script) where
  heap := .same
  done _ _ := h
  failed _ e := nomatch e
  scripts d mem := by
    rcases Array.mem_push.mp mem with mem | rfl
    · exact Or.inl mem
    · exact Or.inr lt
  snapshots _ mem := Or.inl mem

theorem addSnapshot {snapshot : Snapshot} (h : s.Makes snapshot) (log : List Record) :
    Effect s [] (s.addSnapshot snapshot log) where
  heap := .same
  done _ _ := .refl _
  failed _ e := nomatch e
  scripts _ mem := Or.inl mem
  snapshots d mem := by
    rcases Array.mem_push.mp mem with mem | rfl
    · exact Or.inl mem
    · exact Or.inr h

end Effect

/-! ## Operations on scopes -/

theorem becomes_addTop (s : Session) (c : Config) (receiver : Value) :
    s.forest.Becomes [⟨s.forest.size, c.selfName, receiver, none⟩]
      (s.addTop c receiver).2.forest :=
  .addThen fun lt => .write lt c.selfName receiver none

theorem becomes_addScopes (s : Session) (b : ScopeId) (count : Nat) :
    ∃ g, (s.addScopes b count).2 = { s with forest := g } ∧ s.forest.Becomes [] g := by
  induction count generalizing s b with
  | zero => exact ⟨s.forest, rfl, .refl _⟩
  | succ count ih =>
    obtain ⟨g, heq, hg⟩ := ih (s.addScope (some b)).2 s.forest.size
    exact ⟨g, heq, (Forest.Becomes.add s.forest (some b)).trans hg⟩

theorem effect_scopeStep (s : Session) (op : ScopeOp) :
    Effect s (s.intended (.scope op)) (s.scopeStep op) := by
  cases op with
  | create parent =>
    cases parent with
    | none => exact .withConfig fun c _ => .becomes (.add _ _) _ _
    | some p => exact .withScope fun _ => .withConfig fun c _ => .becomes (.add _ _) _ _
  | top receiver =>
    refine .withConfig fun c hc => ?_
    rw [intended, configured, hc]
    exact .becomes (becomes_addTop { s with config := some c } c receiver) _ _
  | child p => exact .withScope fun _ => .withConfig fun c _ => .becomes (.add _ _) _ _
  | descend p count =>
    cases count with
    | zero => exact .withScope fun _ => .answer s _
    | succ count =>
      refine .withScope fun _ => .withConfig fun c _ => ?_
      obtain ⟨g, heq, hg⟩ := becomes_addScopes { s with config := some c } p (count + 1)
      simp only [Session.answer, heq]
      exact .becomes (s := { s with config := some c }) hg _ _
  | parent b =>
    refine .withScope fun _ => ?_
    split
    next => exact .answer s _
    next => exact .answer s _
  | metadata b name =>
    refine .withScope fun _ => ?_
    split
    next => exact .answer s _
    next => exact .fail s _ _ _
  | self b => exact .withScope fun _ => .withConfig fun c _ => .lookup _ b _
  | context b => exact .withScope fun _ => .withConfig fun c _ => .lookup _ b _
  | get b name => exact .withScope fun _ => .lookup s b name
  | set b name value metadata =>
    exact .withScope fun lt => .becomes (.write lt name value (metadata.map dictOf)) _ _
  | setGlobal b name value =>
    exact .withScope fun lt => .becomes (.write (Forest.root_lt lt) name value none) _ _
  | _ => exact .withScope fun _ => .answer s _

/-! ## Operations on scripts -/

def Sited (s : Session) : Prop := ∀ script ∈ s.scripts, script.scope < s.forest.size

theorem Sited.lt (sited : s.Sited) {id : ScriptId} {script : Script}
    (found : s.scripts[id]? = some script) : script.scope < s.forest.size :=
  sited script (Array.mem_of_getElem? found)

theorem becomes_addLexical (s : Session) (c : Config) (b : ScopeId) (context receiver : Value) :
    s.forest.Becomes [⟨s.forest.size, c.contextName, context, none⟩,
      ⟨s.forest.size, c.selfName, receiver, none⟩]
      (s.addLexical c b context receiver).2.forest := by
  refine .addThen fun lt => .trans (.write lt c.contextName context none) (.write ?_ _ _ _)
  rw [Forest.size_write]
  exact lt

theorem effect_addLexical {c : Config} (configured : s.configuration = .ok c) (b : ScopeId)
    (context receiver : Value) :
    Effect s [⟨s.forest.size, c.contextName, context, none⟩,
        ⟨s.forest.size, c.selfName, receiver, none⟩]
      (s.withConfig fun s c =>
        let (d, s) := s.addLexical c b context receiver
        s.addScript ⟨d, context⟩) := by
  refine .withConfig fun d hd => ?_
  rw [configured] at hd
  cases hd
  have hbecomes := becomes_addLexical { s with config := some c } c b context receiver
  refine .addScript (s := { s with config := some c }) hbecomes ?_
  show s.forest.size < (((s.forest.add (some b)).2.write ..).write ..).size
  rw [Forest.size_write, Forest.size_write, Forest.size_add]
  exact Nat.lt_succ_self _

theorem effect_scriptStep (sited : s.Sited) (op : ScriptOp) :
    Effect s (s.intended (.script op)) (s.scriptStep op) := by
  cases op with
  | create b context => exact .withScope fun lt => .addScript (.refl _) lt
  | build receiver context =>
    refine .withConfig fun c hc => ?_
    rw [intended, configured, hc]
    have htop := becomes_addTop { s with config := some c } c receiver
    refine .addScript (s := { s with config := some c }) htop ?_
    show s.forest.size < ((s.forest.add none).2.write ..).size
    rw [Forest.size_write, Forest.size_add]
    exact Nat.lt_succ_self _
  | child id lexical context receiver =>
    refine .withScript fun script found => ?_
    have lt := sited.lt found
    cases lexical with
    | false => exact .addScript (.refl _) lt
    | true =>
      refine .withReceiver (fun hgiven => ?_) fun c v hmissing hc hget => ?_
      · cases hc : s.configuration with
        | ok c =>
          simp only [intended, found, Session.configured, hc, hgiven, if_true]
          exact effect_addLexical hc script.scope _ receiver
        | error e =>
          rw [withConfig_of_error hc]
          exact .fail s _ _ _
      · simp only [intended, found, Session.configured, hc, hmissing, hget]
        exact effect_addLexical (s := { s with config := some c }) (configuration_of_kept rfl)
          script.scope _ v
  | scope id => exact .withScript fun script _ => .answer s _
  | context id => exact .withScript fun script _ => .answer s _
  | self id => exact .withScript fun script _ => .withConfig fun c _ => .lookup _ _ _
  | get id name => exact .withScript fun script _ => .lookup s _ name
  | set id name value =>
    refine .withScript fun script found => ?_
    rw [intended, found]
    exact .becomes (.write (sited.lt found) name value none) _ _
  | setGlobal id name value =>
    refine .withScript fun script found => ?_
    rw [intended, found]
    exact .becomes (.write (Forest.root_lt (sited.lt found)) name value none) _ _

/-! ## Operations on snapshots -/

theorem effect_rebuild (s : Session) (heap : Heap) (h : s.heap.Next heap) (snapshot : Snapshot) :
    Effect s (Snapshot.frameWrites s.forest.size snapshot.frames)
      (({ s with heap } : Session).rebuild snapshot) where
  heap := h
  done _ _ := Snapshot.becomes_restore s.forest snapshot
  failed _ e := nomatch e
  scripts _ mem := Or.inl mem
  snapshots _ mem := Or.inl mem

theorem effect_loadFrom (s : Session) {heap : Heap} (h : s.heap.Next heap) (data : Value) :
    Effect s (s.loadWrites heap data) (s.loadFrom heap data) := by
  rw [loadFrom, loadWrites]
  cases Snapshot.ofValue heap s.snapshots data with
  | error faults => exact .fail s _ _ _
  | ok snapshot =>
    simp only
    cases hc : s.configuration with
    | ok c =>
      rw [current_of_ok hc]
      exact .keep (effect_rebuild { s with config := some c } heap h snapshot)
    | error e =>
      rw [current_of_error hc]
      exact .fail s _ _ _

theorem effect_withCapture {b : ScopeId} {next : Session → Snapshot → Session × Outcome}
    (h : ∀ c snapshot, Snapshot.capture s.forest b = .ok snapshot →
      Effect { s with config := some c } ws (next { s with config := some c } snapshot)) :
    Effect s ws (s.withCapture b next) := by
  refine .withConfig fun c _ => ?_
  simp only
  split
  next => exact .fail _ _ _ _
  next =>
    split
    next => exact .fail _ _ _ _
    next snapshot hsnapshot => exact h c snapshot hsnapshot

theorem effect_snapshotStep (s : Session) (op : SnapshotOp) :
    Effect s (s.intended (.snapshot op)) (s.snapshotStep op) := by
  cases op with
  | capture b =>
    rw [snapshotStep]
    split
    next =>
      exact effect_withCapture fun c snapshot hb =>
        .addSnapshot (s := { s with config := some c }) (.captured b hb) _
    next => exact .fail s _ _ _
  | restore id =>
    refine .withSnapshot fun snapshot found => .withConfig fun c _ => ?_
    rw [intended, found]
    exact effect_rebuild { s with config := some c } s.heap .same snapshot
  | scopeCount id => exact .withSnapshot fun _ _ => .answer s _
  | frames id => exact .withSnapshot fun _ _ => .answer s _
  | make fields =>
    rw [snapshotStep]
    split
    next snapshot hs => exact .addSnapshot (.checked _ hs) _
    next => exact .fail s _ _ _
  | makeEntry fields =>
    rw [snapshotStep]
    split
    next => exact .answer s _
    next => exact .fail s _ _ _
  | serialize b =>
    rw [snapshotStep]
    split
    next =>
      refine effect_withCapture fun c snapshot _ => ?_
      simp only
      split
      next => exact .becomes (.refl _) _ _
      next => exact .fail _ _ _ _
    next => exact .fail s _ _ _
  | deserialize text =>
    rw [snapshotStep, intended]
    cases hread : Json.read text.toList with
    | error stop =>
      simp only
      exact .fail s _ _ _
    | ok tree =>
      simp only
      exact effect_loadFrom s (.read hread) _
  | load data => exact effect_loadFrom s .same data

/-! ## All operations -/

theorem effect_hostStep (s : Session) (op : HostOp) :
    Effect s (s.intended (.host op)) (s.hostStep op) := by
  cases op with
  | give v => exact .answer s _
  | append id v =>
    rw [hostStep]
    split
    next done =>
      exact ⟨.append done, fun _ _ => .refl _, fun _ _ => rfl, fun _ h => Or.inl h,
        fun _ h => Or.inl h⟩
    next => exact .fail s _ _ _
  | put id key v =>
    rw [hostStep]
    split
    next done =>
      exact ⟨.put done, fun _ _ => .refl _, fun _ _ => rfl, fun _ h => Or.inl h,
        fun _ h => Or.inl h⟩
    next => exact .fail s _ _ _

theorem effect_settingsStep (s : Session) (op : SettingsOp) :
    Effect s (s.intended (.settings op)) (s.settingsStep op) := by
  have hsources : ∀ sources, Effect s [] ({ s with sources }, .reply .nothing) := fun _ =>
    ⟨.same, fun _ _ => .refl _, fun _ _ => rfl, fun _ h => Or.inl h, fun _ h => Or.inl h⟩
  cases op with
  | setVariable name value => exact hsources _
  | setFile file => exact hsources _
  | current => exact .withConfig fun c _ => .answer _ _
  | reload => exact .keep (.withConfig fun c _ => .answer _ _)
  | make arguments =>
    rw [settingsStep]
    split
    next => exact .answer s _
    next => exact .fail s _ _ _

/-- What an operation does. -/
theorem effect_step (sited : s.Sited) (op : Op) : Effect s (s.intended op) (s.step op) := by
  cases op with
  | scope op => exact effect_scopeStep s op
  | script op => exact effect_scriptStep sited op
  | snapshot op => exact effect_snapshotStep s op
  | host op => exact effect_hostStep s op
  | settings op => exact effect_settingsStep s op

end Session
end ScopeChain
