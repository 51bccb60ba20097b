/-
How operations end.

Every operation is followed to its ends once.  It fails or gives a reply of its kind, and leaves no
record, or it ends in one of four ways that leave one: a name is looked up and not found, a name is
bound globally, a chain is captured, or a chain is rebuilt.  What holds of these ends holds of all
outcomes.
-/
import ScopeChain.Proofs.Session.Effect
import ScopeChain.Proofs.Session.Rebuilt

namespace ScopeChain

/-! ## Kinds of replies -/

inductive Reply.Kind where
  | nothing | flag | number | text | names | scope | scopes | value | metadata | items | script
  | snapshot | frames | entry | config

def Reply.kind : Reply → Reply.Kind
  | .nothing => .nothing
  | .flag _ => .flag
  | .number _ => .number
  | .text _ => .text
  | .names _ => .names
  | .scope _ => .scope
  | .scopes _ => .scopes
  | .value _ => .value
  | .metadata _ => .metadata
  | .items _ => .items
  | .script _ => .script
  | .snapshot _ => .snapshot
  | .frames _ => .frames
  | .entry _ => .entry
  | .config _ => .config

def ScopeOp.kinds : ScopeOp → List Reply.Kind
  | .create _ | .top _ | .child _ | .descend .. | .root _ | .set .. | .setGlobal .. => [.scope]
  | .isGlobal _ | .defines .. | .resolves .. => [.flag]
  | .parent _ => [.scope, .nothing]
  | .depth _ => [.number]
  | .chain _ => [.scopes]
  | .localNames _ | .visibleNames _ => [.names]
  | .localItems _ => [.items]
  | .describe _ => [.text]
  | .self _ | .context _ | .get .. => [.value]
  | .metadata .. => [.metadata]

def ScriptOp.kinds : ScriptOp → List Reply.Kind
  | .create .. | .build .. | .child .. => [.script]
  | .scope _ => [.scope]
  | .context _ | .self _ | .get .. | .set .. | .setGlobal .. => [.value]

def SnapshotOp.kinds : SnapshotOp → List Reply.Kind
  | .capture _ | .make _ => [.snapshot]
  | .restore _ | .deserialize _ | .load _ => [.scope]
  | .scopeCount _ => [.number]
  | .frames _ => [.frames]
  | .makeEntry _ => [.entry]
  | .serialize _ => [.text]

def SettingsOp.kinds : SettingsOp → List Reply.Kind
  | .setVariable .. | .setFile _ => [.nothing]
  | .current | .reload | .make _ => [.config]

def Op.kinds : Op → List Reply.Kind
  | .scope op => op.kinds
  | .script op => op.kinds
  | .snapshot op => op.kinds
  | .host _ => [.value]
  | .settings op => op.kinds

theorem Op.config_mem_kinds {op : Op} (mem : .config ∈ op.kinds) : ∃ op', op = .settings op' := by
  cases op with
  | scope op => cases op <;> simp [kinds, ScopeOp.kinds] at mem
  | script op => cases op <;> simp [kinds, ScriptOp.kinds] at mem
  | snapshot op => cases op <;> simp [kinds, SnapshotOp.kinds] at mem
  | host op => simp [kinds] at mem
  | settings op => exact ⟨op, rfl⟩

namespace Session

variable {s : Session} {op : Op} {b : ScopeId} {c : Config} {name : String} {snapshot : Snapshot}

/-! ## Operations that leave a record -/

/-- Whether an operation looks for the value of a name from a scope on.  A lexical script that is
given no receiver looks for the one in the scope of its parent. -/
inductive LooksUp (s : Session) : Op → ScopeId → String → Prop where
  | get {b : ScopeId} {name : String} : LooksUp s (.scope (.get b name)) b name
  | self {b : ScopeId} {c : Config} (known : s.configuration = .ok c) :
    LooksUp s (.scope (.self b)) b c.selfName
  | context {b : ScopeId} {c : Config} (known : s.configuration = .ok c) :
    LooksUp s (.scope (.context b)) b c.contextName
  | scriptGet {id : ScriptId} {script : Script} {name : String}
    (found : s.scripts[id]? = some script) : LooksUp s (.script (.get id name)) script.scope name
  | scriptSelf {id : ScriptId} {script : Script} {c : Config}
    (found : s.scripts[id]? = some script) (known : s.configuration = .ok c) :
    LooksUp s (.script (.self id)) script.scope c.selfName
  | receiver {id : ScriptId} {script : Script} {context receiver : Value} {c : Config}
    (found : s.scripts[id]? = some script) (missing : ¬ isGiven receiver)
    (known : s.configuration = .ok c) :
    LooksUp s (.script (.child id true context receiver)) script.scope c.selfName

inductive WritesGlobally (s : Session) : Op → ScopeId → String → Prop where
  | scope {b : ScopeId} {name : String} {value : Value} :
    WritesGlobally s (.scope (.setGlobal b name value)) b name
  | script {id : ScriptId} {script : Script} {name : String} {value : Value}
    (found : s.scripts[id]? = some script) :
    WritesGlobally s (.script (.setGlobal id name value)) script.scope name

inductive Capturing (b : ScopeId) : Op → Prop where
  | capture : Capturing b (.snapshot (.capture b))
  | serialize : Capturing b (.snapshot (.serialize b))

/-- Whether a chain is captured: there is a configuration, which allows its depth, and its frames
can be taken. -/
structure Captured (s : Session) (b : ScopeId) (c : Config) (snapshot : Snapshot) : Prop where
  known : s.configuration = .ok c
  shallow : s.forest.depth b ≤ c.maxSnapshotDepth
  taken : Snapshot.capture s.forest b = .ok snapshot

/-- The outcomes that an operation can have. -/
inductive Ending (s : Session) (op : Op) : Outcome → Prop where
  | fails (f : Failure) : Ending s op (.fail f)
  | replies {a : Reply} (kind : a.kind ∈ op.kinds) : Ending s op (.reply a)
  | misses {b : ScopeId} {name : String} (looks : s.LooksUp op b name)
    (present : b < s.forest.size) :
    Ending s op ⟨.error (.unknownVariable name), [.lookupFailed name (s.forest.depth b)]⟩
  | binds {b : ScopeId} {name : String} {a : Reply} (writes : s.WritesGlobally op b name)
    (present : b < s.forest.size) (kind : a.kind ∈ op.kinds) :
    Ending s op ⟨.ok a, s.globalWriteLog b name⟩
  | captures {b : ScopeId} {c : Config} {snapshot : Snapshot} {answer : Except Failure Reply}
    (capturing : Capturing b op) (present : b < s.forest.size)
    (captured : s.Captured b c snapshot) (kind : ∀ a, answer = .ok a → a.kind ∈ op.kinds) :
    Ending s op ⟨answer, [.captured snapshot.scopeCount]⟩
  | rebuilds {t : Session} {snapshot : Snapshot} (rebuilding : op.Rebuilding)
    (rebuilt : s.step op = rebuild t snapshot) : Ending s op (rebuild t snapshot).2

/-- A reply is of a kind that the operation can give. -/
theorem Ending.kind {o : Outcome} (ending : s.Ending op o) {a : Reply} (answered : o.answer = .ok a) :
    a.kind ∈ op.kinds := by
  cases ending with
  | fails f => cases answered
  | replies kind =>
    cases answered
    exact kind
  | misses looks present => cases answered
  | binds writes present kind =>
    cases answered
    exact kind
  | captures capturing present captured kind => exact kind a answered
  | rebuilds rebuilding rebuilt =>
    cases answered
    cases rebuilding <;> exact List.mem_cons_self

/-! ## Lookups -/

/-- A lookup leaves a record exactly if it fails. -/
theorem lookup_cases (s : Session) (b : ScopeId) (name : String) :
    (∃ v, s.lookup b name = s.answer (.value v)) ∨ s.lookup b name =
      (s, ⟨.error (.unknownVariable name), [.lookupFailed name (s.forest.depth b)]⟩) := by
  rw [lookup]
  cases s.forest.get b name with
  | some v => exact Or.inl ⟨v, rfl⟩
  | none => exact Or.inr rfl

theorem step_lexical {id : ScriptId} {script : Script} (found : s.scripts[id]? = some script)
    (context receiver : Value) :
    s.step (.script (.child id true context receiver)) =
      s.withReceiver script.scope receiver fun s v => s.withConfig fun s c =>
        let (d, s) := s.addLexical c script.scope
          (if isGiven context then context else script.context) v
        s.addScript ⟨d, if isGiven context then context else script.context⟩ := by
  show s.withScript _ _ = _
  rw [withScript, found]
  rfl

theorem LooksUp.cases (looks : s.LooksUp op b name) (present : b < s.forest.size) :
    (∃ a, (s.step op).2 = .reply a ∧ a.kind ∈ op.kinds) ∨ (s.step op).2 =
      ⟨.error (.unknownVariable name), [.lookupFailed name (s.forest.depth b)]⟩ := by
  have hlookup : .value ∈ op.kinds → ∀ t : Session, t.forest = s.forest →
      s.step op = t.lookup b name →
      (∃ a, (s.step op).2 = .reply a ∧ a.kind ∈ op.kinds) ∨ (s.step op).2 =
        ⟨.error (.unknownVariable name), [.lookupFailed name (s.forest.depth b)]⟩ := by
    intro kind t hforest hstep
    rw [hstep, ← hforest]
    rcases lookup_cases t b name with ⟨v, heq⟩ | heq
    · exact Or.inl ⟨.value v, congrArg Prod.snd heq, kind⟩
    · exact Or.inr (congrArg Prod.snd heq)
  cases looks with
  | get => exact hlookup List.mem_cons_self s rfl (if_pos present)
  | @self _ c known =>
    refine hlookup List.mem_cons_self { s with config := some c } rfl ((if_pos present).trans ?_)
    exact withConfig_of_ok known _
  | @context _ c known =>
    refine hlookup List.mem_cons_self { s with config := some c } rfl ((if_pos present).trans ?_)
    exact withConfig_of_ok known _
  | scriptGet found =>
    refine hlookup List.mem_cons_self s rfl ?_
    show s.withScript _ _ = _
    rw [withScript, found]
  | @scriptSelf id script c found known =>
    refine hlookup List.mem_cons_self { s with config := some c } rfl ?_
    show s.withScript _ _ = _
    rw [withScript, found]
    exact withConfig_of_ok known _
  | @receiver id script context receiver c found missing known =>
    have hstep := step_lexical found context receiver
    rw [withReceiver, if_neg missing, withConfig_of_ok known] at hstep
    simp only at hstep
    cases hget : s.forest.get script.scope c.selfName with
    | some v =>
      rw [hget] at hstep
      simp only at hstep
      rw [withConfig_of_ok (configuration_of_kept rfl)] at hstep
      exact Or.inl ⟨_, congrArg Prod.snd hstep, List.mem_cons_self⟩
    | none =>
      rw [hget] at hstep
      simp only [lookup, hget] at hstep
      exact Or.inr (congrArg Prod.snd hstep)

theorem LooksUp.ending (looks : s.LooksUp op b name) (present : b < s.forest.size) :
    s.Ending op (s.step op).2 := by
  rcases looks.cases present with ⟨a, heq, kind⟩ | heq
  · rw [heq]
    exact .replies kind
  · rw [heq]
    exact .misses looks present

/-! ## Global writes -/

theorem WritesGlobally.outcome (writes : s.WritesGlobally op b name)
    (present : b < s.forest.size) :
    ∃ a, (s.step op).2 = ⟨.ok a, s.globalWriteLog b name⟩ ∧ a.kind ∈ op.kinds := by
  cases writes with
  | scope => exact ⟨_, congrArg Prod.snd (if_pos present), List.mem_cons_self⟩
  | @script id script name value found =>
    refine ⟨.value value, ?_, List.mem_cons_self⟩
    show (s.withScript _ _).2 = _
    rw [withScript, found]

theorem WritesGlobally.ending (writes : s.WritesGlobally op b name) (present : b < s.forest.size) :
    s.Ending op (s.step op).2 := by
  obtain ⟨a, heq, kind⟩ := writes.outcome present
  rw [heq]
  exact .binds writes present kind

/-! ## Captures -/

theorem withCapture_cases (s : Session) (b : ScopeId) :
    (∃ c snapshot, s.Captured b c snapshot ∧
      ∀ next, s.withCapture b next = next { s with config := some c } snapshot) ∨
    ∀ next, ∃ (t : Session) (f : Failure), s.withCapture b next = t.fail f := by
  simp only [withCapture]
  cases hc : s.configuration with
  | error e =>
    refine Or.inr fun next => ⟨s, .settings e, ?_⟩
    exact withConfig_of_error hc _
  | ok c =>
    simp only [withConfig_of_ok hc]
    by_cases deep : c.maxSnapshotDepth < s.forest.depth b
    · exact Or.inr fun next => ⟨_, _, if_pos deep⟩
    · simp only [if_neg deep]
      cases taken : Snapshot.capture s.forest b with
      | error faults => exact Or.inr fun next => ⟨_, _, rfl⟩
      | ok snapshot =>
        exact Or.inl ⟨c, snapshot, ⟨hc, Nat.le_of_not_lt deep, taken⟩, fun next => rfl⟩

/-- What captures a chain leaves a record of it if the chain is captured, whatever becomes of the
snapshot, and else it fails without one. -/
theorem Capturing.cases (capturing : Capturing b op) (present : b < s.forest.size) :
    (∃ c snapshot answer, s.Captured b c snapshot ∧
        (s.step op).2 = ⟨answer, [.captured snapshot.scopeCount]⟩ ∧
        ∀ a, answer = .ok a → a.kind ∈ op.kinds) ∨
      ((∃ f, (s.step (.snapshot (.capture b))).2.answer = .error f) ∧
        ∃ f, (s.step op).2 = .fail f) := by
  have hcapture : s.step (.snapshot (.capture b)) = s.withCapture b fun s snapshot =>
      s.addSnapshot snapshot [.captured snapshot.scopeCount] := if_pos present
  rcases withCapture_cases s b with ⟨c, snapshot, captured, hgoes⟩ | hrefused
  · refine Or.inl ⟨c, snapshot, (s.step op).2.answer, captured, ?_⟩
    cases capturing with
    | capture =>
      rw [hcapture, hgoes]
      refine ⟨rfl, fun a ha => ?_⟩
      cases ha
      exact List.mem_cons_self
    | serialize =>
      have hstep : s.step (.snapshot (.serialize b)) = s.snapshotStep (.serialize b) := rfl
      rw [hstep, snapshotStep, if_pos present, hgoes]
      simp only
      split
      next =>
        refine ⟨rfl, fun a ha => ?_⟩
        cases ha
        exact List.mem_cons_self
      next =>
        refine ⟨rfl, fun a ha => ?_⟩
        cases ha
  · obtain ⟨t, f, hfail⟩ := hrefused fun s snapshot =>
      s.addSnapshot snapshot [.captured snapshot.scopeCount]
    rw [hcapture, hfail]
    refine Or.inr ⟨⟨f, rfl⟩, ?_⟩
    cases capturing with
    | capture => exact ⟨f, by rw [hcapture, hfail]; rfl⟩
    | serialize =>
      have hstep : s.step (.snapshot (.serialize b)) = s.snapshotStep (.serialize b) := rfl
      rw [hstep, snapshotStep, if_pos present]
      obtain ⟨u, g, hfail⟩ := hrefused _
      exact ⟨g, congrArg Prod.snd hfail⟩

theorem Capturing.ending (capturing : Capturing b op) (present : b < s.forest.size) :
    s.Ending op (s.step op).2 := by
  rcases capturing.cases (s := s) present with ⟨c, snapshot, a, captured, heq, kind⟩ | ⟨-, f, heq⟩
  · rw [heq]
    exact .captures capturing present captured kind
  · rw [heq]
    exact .fails f

/-! ## Rebuilt chains -/

/-- Data is loaded as the chain that it is read as, or refused. -/
theorem loadFrom_cases (s : Session) (heap : Heap) (data : Value) :
    (∃ c snapshot, Snapshot.ofValue heap s.snapshots data = .ok snapshot ∧
      s.loadFrom heap data = ({ s with heap, config := some c } : Session).rebuild snapshot) ∨
    ∃ e, s.loadFrom heap data = s.fail (.snapshot e) := by
  cases hs : Snapshot.ofValue heap s.snapshots data with
  | error faults => exact Or.inr ⟨_, loadFrom_of_error hs⟩
  | ok snapshot =>
    cases hc : s.configuration with
    | ok c => exact Or.inl ⟨c, snapshot, rfl, loadFrom_of_ok hc hs⟩
    | error e => exact Or.inr ⟨_, loadFrom_of_unloaded hc hs⟩

theorem rebuilding_cases (rebuilding : op.Rebuilding) :
    (∃ t snapshot, s.step op = rebuild t snapshot) ∨ ∃ f, s.step op = s.fail f := by
  cases rebuilding with
  | restore id =>
    have hstep : s.step (.snapshot (.restore id)) =
      s.withSnapshot id fun snapshot => s.withConfig fun s _ => s.rebuild snapshot := rfl
    rw [hstep, withSnapshot]
    split
    next snapshot _ =>
      rcases withConfig_cases s fun s _ => s.rebuild snapshot with ⟨c, -, heq⟩ | ⟨e, -, heq⟩
      · exact Or.inl ⟨_, snapshot, heq⟩
      · exact Or.inr ⟨_, heq⟩
    next => exact Or.inr ⟨_, rfl⟩
  | deserialize text =>
    have hstep : s.step (.snapshot (.deserialize text)) =
      s.snapshotStep (.deserialize text) := rfl
    rw [hstep, snapshotStep]
    cases Json.read text.toList with
    | error stop => exact Or.inr ⟨_, rfl⟩
    | ok tree =>
      rcases loadFrom_cases s (s.heap.ofJson tree).2 (s.heap.ofJson tree).1 with
        ⟨c, snapshot, -, heq⟩ | ⟨e, heq⟩
      · exact Or.inl ⟨_, snapshot, heq⟩
      · exact Or.inr ⟨_, heq⟩
  | load data =>
    rcases loadFrom_cases s s.heap data with ⟨c, snapshot, -, heq⟩ | ⟨e, heq⟩
    · exact Or.inl ⟨_, snapshot, heq⟩
    · exact Or.inr ⟨_, heq⟩

theorem ending_of_rebuilding (rebuilding : op.Rebuilding) : s.Ending op (s.step op).2 := by
  rcases rebuilding_cases (s := s) rebuilding with ⟨t, snapshot, heq⟩ | ⟨f, heq⟩
  · have hending := Ending.rebuilds rebuilding heq
    rwa [← heq] at hending
  · rw [heq]
    exact .fails f

/-! ## All operations -/

namespace Ending

variable {r : Session × Outcome}

theorem withScope (h : b < s.forest.size → s.Ending op r.2) : s.Ending op (s.withScope b r).2 := by
  rw [Session.withScope]
  split
  next present => exact h present
  next => exact .fails _

theorem withConfig {t : Session} {next : Session → Config → Session × Outcome}
    (h : ∀ c, t.configuration = .ok c → s.Ending op (next { t with config := some c } c).2) :
    s.Ending op (t.withConfig next).2 := by
  rcases withConfig_cases t next with ⟨c, hc, heq⟩ | ⟨e, -, heq⟩
  · rw [heq]
    exact h c hc
  · rw [heq]
    exact .fails _

theorem withScript {id : ScriptId} {next : Script → Session × Outcome}
    (h : ∀ script, s.scripts[id]? = some script → s.Ending op (next script).2) :
    s.Ending op (s.withScript id next).2 := by
  rw [Session.withScript]
  split
  next script found => exact h script found
  next => exact .fails _

theorem withSnapshot {id : SnapshotId} {next : Snapshot → Session × Outcome}
    (h : ∀ snapshot, s.Ending op (next snapshot).2) : s.Ending op (s.withSnapshot id next).2 := by
  rw [Session.withSnapshot]
  split
  next snapshot _ => exact h snapshot
  next => exact .fails _

end Ending

theorem ending_scopeStep (s : Session) (op : ScopeOp) :
    s.Ending (.scope op) (s.step (.scope op)).2 := by
  cases op with
  | create parent =>
    cases parent with
    | none => exact .withConfig fun _ _ => .replies List.mem_cons_self
    | some p => exact .withScope fun _ => .withConfig fun _ _ => .replies List.mem_cons_self
  | top receiver => exact .withConfig fun _ _ => .replies List.mem_cons_self
  | child p => exact .withScope fun _ => .withConfig fun _ _ => .replies List.mem_cons_self
  | descend p count =>
    cases count with
    | zero => exact .withScope fun _ => .replies List.mem_cons_self
    | succ count => exact .withScope fun _ => .withConfig fun _ _ => .replies List.mem_cons_self
  | parent b =>
    refine .withScope fun _ => ?_
    split
    next => exact .replies List.mem_cons_self
    next => exact .replies (List.mem_cons_of_mem _ List.mem_cons_self)
  | metadata b name =>
    refine .withScope fun _ => ?_
    split
    next => exact .replies List.mem_cons_self
    next => exact .fails _
  | self b =>
    by_cases present : b < s.forest.size
    · cases known : s.configuration with
      | ok c => exact (LooksUp.self known).ending present
      | error e =>
        refine .withScope fun _ => .withConfig fun c hc => ?_
        cases known.symm.trans hc
    · exact .withScope fun h => absurd h present
  | context b =>
    by_cases present : b < s.forest.size
    · cases known : s.configuration with
      | ok c => exact (LooksUp.context known).ending present
      | error e =>
        refine .withScope fun _ => .withConfig fun c hc => ?_
        cases known.symm.trans hc
    · exact .withScope fun h => absurd h present
  | get b name =>
    by_cases present : b < s.forest.size
    · exact LooksUp.get.ending present
    · exact .withScope fun h => absurd h present
  | setGlobal b name value =>
    by_cases present : b < s.forest.size
    · exact WritesGlobally.scope.ending present
    · exact .withScope fun h => absurd h present
  | _ => exact .withScope fun _ => .replies List.mem_cons_self

theorem ending_scriptStep (sited : s.Sited) (op : ScriptOp) :
    s.Ending (.script op) (s.step (.script op)).2 := by
  have habsent : ∀ {id : ScriptId} {op : Op} {next : Script → Session × Outcome},
      s.scripts[id]? = none → s.Ending op (s.withScript id next).2 := fun absent =>
    .withScript fun script found => by cases absent.symm.trans found
  cases op with
  | create b context => exact .withScope fun _ => .replies List.mem_cons_self
  | build receiver context => exact .withConfig fun _ _ => .replies List.mem_cons_self
  | child id lexical context receiver =>
    cases found : s.scripts[id]? with
    | none => exact habsent found
    | some script =>
      cases lexical with
      | false => exact .withScript fun _ _ => .replies List.mem_cons_self
      | true =>
        by_cases given : isGiven receiver
        · refine .withScript fun script _ => ?_
          rw [if_pos rfl, withReceiver, if_pos given]
          exact .withConfig fun _ _ => .replies List.mem_cons_self
        · cases known : s.configuration with
          | ok c => exact (LooksUp.receiver found given known).ending (sited.lt found)
          | error e =>
            refine .withScript fun script _ => ?_
            rw [if_pos rfl, withReceiver, if_neg given]
            exact .withConfig fun c hc => by cases known.symm.trans hc
  | scope id => exact .withScript fun _ _ => .replies List.mem_cons_self
  | context id => exact .withScript fun _ _ => .replies List.mem_cons_self
  | self id =>
    cases found : s.scripts[id]? with
    | none => exact habsent found
    | some script =>
      cases known : s.configuration with
      | ok c => exact (LooksUp.scriptSelf found known).ending (sited.lt found)
      | error e =>
        refine .withScript fun _ _ => .withConfig fun c hc => ?_
        cases known.symm.trans hc
  | get id name =>
    cases found : s.scripts[id]? with
    | none => exact habsent found
    | some script => exact (LooksUp.scriptGet found).ending (sited.lt found)
  | set id name value => exact .withScript fun _ _ => .replies List.mem_cons_self
  | setGlobal id name value =>
    cases found : s.scripts[id]? with
    | none => exact habsent found
    | some script => exact (WritesGlobally.script found).ending (sited.lt found)

theorem ending_snapshotStep (s : Session) (op : SnapshotOp) :
    s.Ending (.snapshot op) (s.step (.snapshot op)).2 := by
  have hstep : s.step (.snapshot op) = s.snapshotStep op := rfl
  cases op with
  | capture b =>
    by_cases present : b < s.forest.size
    · exact Capturing.capture.ending present
    · rw [hstep, snapshotStep, if_neg present]
      exact .fails _
  | restore id => exact ending_of_rebuilding (.restore id)
  | scopeCount id => exact .withSnapshot fun _ => .replies List.mem_cons_self
  | frames id => exact .withSnapshot fun _ => .replies List.mem_cons_self
  | make fields =>
    rw [hstep, snapshotStep]
    split
    next => exact .replies List.mem_cons_self
    next => exact .fails _
  | makeEntry fields =>
    rw [hstep, snapshotStep]
    split
    next => exact .replies List.mem_cons_self
    next => exact .fails _
  | serialize b =>
    by_cases present : b < s.forest.size
    · exact Capturing.serialize.ending present
    · rw [hstep, snapshotStep, if_neg present]
      exact .fails _
  | deserialize text => exact ending_of_rebuilding (.deserialize text)
  | load data => exact ending_of_rebuilding (.load data)

theorem ending_settingsStep (s : Session) (op : SettingsOp) :
    s.Ending (.settings op) (s.step (.settings op)).2 := by
  have hstep : s.step (.settings op) = s.settingsStep op := rfl
  cases op with
  | setVariable name value => exact .replies List.mem_cons_self
  | setFile file => exact .replies List.mem_cons_self
  | current => exact .withConfig fun _ _ => .replies List.mem_cons_self
  | reload => exact .withConfig fun _ _ => .replies List.mem_cons_self
  | make arguments =>
    rw [hstep, settingsStep]
    split
    next => exact .replies List.mem_cons_self
    next => exact .fails _

/-- Where all scripts run in scopes that exist, every operation has one of these outcomes. -/
theorem ending_step (sited : s.Sited) (op : Op) : s.Ending op (s.step op).2 := by
  cases op with
  | scope op => exact ending_scopeStep s op
  | script op => exact ending_scriptStep sited op
  | snapshot op => exact ending_snapshotStep s op
  | host op =>
    have hstep : s.step (.host op) = s.hostStep op := rfl
    rw [hstep]
    rcases hostStep_cases s op with ⟨heap, v, heq⟩ | heq
    · rw [heq]
      exact .replies List.mem_cons_self
    · rw [heq]
      exact .fails _
  | settings op => exact ending_settingsStep s op

end Session
end ScopeChain
