/-
Which operations ask for the configuration.

An operation asks or does not, and which of the two is decided by scopes, scripts, snapshots and
data, whatever is kept and whatever the sources are.  One that does not ask does the same under
every configuration and leaves what is kept.  One that asks does the same whether the
configuration was kept or is loaded now, and fails without a change if there is none.  No
operation that fails changes more than what is kept.
-/
import ScopeChain.Proofs.Session.Reach
import ScopeChain.Proofs.Session.Rebuilt

namespace ScopeChain

def Op.aboutSources : Op → Bool
  | .settings (.setVariable ..) | .settings (.setFile _) | .settings (.make _) => true
  | _ => false

namespace Session

variable {s : Session} {kept : Option Config} {sources : Sources} {asks : Prop}
  {r r' : Session × Outcome}

def under (s : Session) (kept : Option Config) (sources : Sources) : Session :=
  { s with config := kept, sources }

/-- Whether an operation asks for the configuration.  One that names what does not exist does not
come to it, nor does one that is given a text or data that describe no chain. -/
def Asks (s : Session) : Op → Prop
  | .scope (.create none) | .scope (.top _) | .script (.build ..) => True
  | .scope (.create (some b)) | .scope (.child b) | .scope (.descend b (_ + 1))
  | .scope (.self b) | .scope (.context b) | .snapshot (.capture b) | .snapshot (.serialize b) =>
    b < s.forest.size
  | .script (.child id true _ _) | .script (.self id) => id < s.scripts.size
  | .snapshot (.restore id) => id < s.snapshots.size
  | .snapshot (.deserialize text) =>
    ∃ tree snapshot, Json.read text.toList = .ok tree ∧
      Snapshot.ofValue (s.heap.ofJson tree).2 s.snapshots (s.heap.ofJson tree).1 = .ok snapshot
  | .snapshot (.load data) =>
    ∃ snapshot, Snapshot.ofValue s.heap s.snapshots data = .ok snapshot
  | .settings .current | .settings .reload => True
  | _ => False

inductive Unloaded (e : Settings.Failure) : Failure → Prop where
  | plain : Unloaded e (.settings e)
  /-- Where a chain is rebuilt. -/
  | rebuilding : Unloaded e (.snapshot (.ofSettings e))

/-- How an operation depends on what is kept and on the sources, if it asks for the configuration
exactly if `asks` holds.  `r` is its result in `s`, and `r'` is that where something else is kept
and the sources are others. -/
structure Course (asks : Prop) (s : Session) (kept : Option Config) (sources : Sources)
    (r r' : Session × Outcome) : Prop where
  stays : r.1.sources = s.sources
  silent : ¬ asks → r.1.config = s.config
  loaded : asks → ∀ c, s.configuration = .ok c → r.1.config = some c
  refused : asks → ∀ e, s.configuration = .error e → ∃ f, Unloaded e f ∧ r = s.fail f
  failed : ∀ f, r.2.answer = .error f → r.1 = s.under r.1.config s.sources
  same : (asks → (s.under kept sources).configuration = s.configuration) →
    r'.2 = r.2 ∧ r'.1 = r.1.under r'.1.config r'.1.sources

namespace Course

/-! ## Rules -/

/-- An operation that changes neither what is kept nor the sources, and nothing if it fails. -/
theorem settled {t : Session} {o : Outcome} (config : t.config = s.config)
    (same : t.sources = s.sources) (failed : ∀ f, o.answer = .error f → t = s) :
    Course False s kept sources (t, o) (t.under kept sources, o) where
  stays := same
  silent _ := config
  loaded h := h.elim
  refused h := h.elim
  failed f hf := by
    rw [failed f hf]
    rfl
  same _ := ⟨rfl, rfl⟩

/-- An operation that succeeds, and changes scopes, scripts, snapshots and containers only. -/
theorem done {t : Session} {a : Reply} {log : List Record} (config : t.config = s.config)
    (same : t.sources = s.sources) :
    Course False s kept sources (t, ⟨.ok a, log⟩) (t.under kept sources, ⟨.ok a, log⟩) :=
  settled config same fun _ h => nomatch h

theorem answer (s : Session) (a : Reply) :
    Course False s kept sources (s.answer a) ((s.under kept sources).answer a) :=
  done rfl rfl

theorem fail (s : Session) (f : Failure) :
    Course False s kept sources (s.fail f) ((s.under kept sources).fail f) :=
  settled rfl rfl fun _ _ => rfl

theorem lookup (s : Session) (b : ScopeId) (name : String) :
    Course False s kept sources (s.lookup b name) ((s.under kept sources).lookup b name) := by
  have hforest : (s.under kept sources).forest = s.forest := rfl
  rw [Session.lookup, Session.lookup, hforest]
  cases s.forest.get b name with
  | some v => exact answer s _
  | none => exact settled rfl rfl fun _ _ => rfl

theorem congr {other : Prop} (iff : asks ↔ other) (h : Course asks s kept sources r r') :
    Course other s kept sources r r' := by
  rwa [← propext iff]

theorem asking {p : Prop} (h : Course (p ∧ True) s kept sources r r') :
    Course p s kept sources r r' :=
  h.congr (and_iff_left trivial)

theorem unasking {p : Prop} (h : Course (p ∧ False) s kept sources r r') :
    Course False s kept sources r r' :=
  h.congr (iff_of_eq (and_false p))

/-- Where a configuration is kept on both sides, asking for it makes no difference. -/
theorem unasked {c : Config}
    (h : Course asks { s with config := some c } (some c) sources r r') :
    Course False { s with config := some c } (some c) sources r r' where
  stays := h.stays
  silent _ := by
    by_cases hasks : asks
    · exact h.loaded hasks c (configuration_of_kept rfl)
    · exact h.silent hasks
  loaded h := h.elim
  refused h := h.elim
  failed := h.failed
  same _ := h.same fun _ => (configuration_of_kept rfl).trans (configuration_of_kept rfl).symm

theorem asked
    (known : ∀ c, s.configuration = .ok c →
      ∃ q, Course False { s with config := some c } (some c) sources r q ∧
        ((s.under kept sources).configuration = .ok c → r' = q))
    (unknown : ∀ e, s.configuration = .error e →
      ∃ f, Unloaded e f ∧ r = s.fail f ∧
        ((s.under kept sources).configuration = .error e → r' = (s.under kept sources).fail f)) :
    Course True s kept sources r r' := by
  cases hc : s.configuration with
  | ok c =>
    obtain ⟨q, h, heq⟩ := known c hc
    refine ⟨h.stays, fun h => absurd trivial h, fun _ d hd => ?_, fun _ e he => ?_, h.failed,
      fun agree => ?_⟩
    · rw [hc] at hd
      cases hd
      exact h.silent id
    · rw [hc] at he
      cases he
    · rw [heq ((agree trivial).trans hc)]
      exact h.same False.elim
  | error e =>
    obtain ⟨f, hf, hr, heq⟩ := unknown e hc
    subst hr
    refine ⟨rfl, fun h => absurd trivial h, fun _ d hd => ?_, fun _ e' he => ?_, fun _ _ => rfl,
      fun agree => ?_⟩
    · rw [hc] at hd
      cases hd
    · rw [hc] at he
      cases he
      exact ⟨f, hf, rfl⟩
    · rw [heq ((agree trivial).trans hc)]
      exact ⟨rfl, rfl⟩

theorem withConfig {next next' : Session → Config → Session × Outcome}
    (h : ∀ c, Course False { s with config := some c } (some c) sources
      (next { s with config := some c } c) (next' { s with config := some c, sources } c)) :
    Course True s kept sources (s.withConfig next) ((s.under kept sources).withConfig next') :=
  asked
    (fun c hc => ⟨_, withConfig_of_ok hc next ▸ h c, fun hc' => withConfig_of_ok hc' next'⟩)
    (fun _ he => ⟨_, .plain, withConfig_of_error he next, fun he' => withConfig_of_error he' next'⟩)

theorem withScope {b : ScopeId} (h : b < s.forest.size → Course asks s kept sources r r') :
    Course (b < s.forest.size ∧ asks) s kept sources (s.withScope b r)
      ((s.under kept sources).withScope b r') := by
  have hforest : (s.under kept sources).forest = s.forest := rfl
  rw [Session.withScope, Session.withScope, hforest]
  by_cases lt : b < s.forest.size
  · rw [if_pos lt, if_pos lt]
    exact (h lt).congr (and_iff_right lt).symm
  · rw [if_neg lt, if_neg lt]
    exact (fail s _).congr (by simp [lt])

theorem withScript {id : ScriptId} {next next' : Script → Session × Outcome}
    (h : ∀ script, Course asks s kept sources (next script) (next' script)) :
    Course (id < s.scripts.size ∧ asks) s kept sources (s.withScript id next)
      ((s.under kept sources).withScript id next') := by
  have hscripts : (s.under kept sources).scripts = s.scripts := rfl
  rw [Session.withScript, Session.withScript, hscripts]
  cases hfound : s.scripts[id]? with
  | some script =>
    have lt : id < s.scripts.size := (Array.getElem?_eq_some_iff.mp hfound).1
    exact (h script).congr (and_iff_right lt).symm
  | none =>
    have le : s.scripts.size ≤ id := Array.getElem?_eq_none_iff.mp hfound
    exact (fail s _).congr (by simp [Nat.not_lt.mpr le])

theorem withSnapshot {id : SnapshotId} {next next' : Snapshot → Session × Outcome}
    (h : ∀ snapshot, Course asks s kept sources (next snapshot) (next' snapshot)) :
    Course (id < s.snapshots.size ∧ asks) s kept sources (s.withSnapshot id next)
      ((s.under kept sources).withSnapshot id next') := by
  have hsnapshots : (s.under kept sources).snapshots = s.snapshots := rfl
  rw [Session.withSnapshot, Session.withSnapshot, hsnapshots]
  cases hfound : s.snapshots[id]? with
  | some snapshot =>
    have lt : id < s.snapshots.size := (Array.getElem?_eq_some_iff.mp hfound).1
    exact (h snapshot).congr (and_iff_right lt).symm
  | none =>
    have le : s.snapshots.size ≤ id := Array.getElem?_eq_none_iff.mp hfound
    exact (fail s _).congr (by simp [Nat.not_lt.mpr le])

/-- What captures a chain asks, also where the chain is not captured. -/
theorem withCapture {b : ScopeId} {next next' : Session → Snapshot → Session × Outcome}
    (h : ∀ c snapshot, Course False { s with config := some c } (some c) sources
      (next { s with config := some c } snapshot)
      (next' { s with config := some c, sources } snapshot)) :
    Course True s kept sources (s.withCapture b next)
      ((s.under kept sources).withCapture b next') := by
  refine withConfig fun c => ?_
  simp only
  by_cases deep : c.maxSnapshotDepth < s.forest.depth b
  · rw [if_pos deep, if_pos deep]
    exact fail _ _
  · rw [if_neg deep, if_neg deep]
    cases Snapshot.capture s.forest b with
    | error faults => exact fail _ _
    | ok snapshot => exact h c snapshot

theorem withReceiver {b : ScopeId} {receiver : Value}
    {next : Session → Value → Session × Outcome}
    (h : ∀ (s : Session) (kept : Option Config) (v : Value),
      Course True s kept sources (next s v) (next (s.under kept sources) v)) :
    Course True s kept sources (s.withReceiver b receiver next)
      ((s.under kept sources).withReceiver b receiver next) := by
  rw [Session.withReceiver, Session.withReceiver]
  by_cases hgiven : isGiven receiver = true
  · rw [if_pos hgiven, if_pos hgiven]
    exact h s kept receiver
  · rw [if_neg hgiven, if_neg hgiven]
    refine withConfig fun c => ?_
    simp only
    cases s.forest.get b c.selfName with
    | some v => exact (h { s with config := some c } (some c) v).unasked
    | none => exact lookup { s with config := some c } b c.selfName

/-- Data is checked first.  Only if it describes a chain the configuration is asked for. -/
theorem loadFrom (s : Session) (heap : Heap) (data : Value) :
    Course (∃ snapshot, Snapshot.ofValue heap s.snapshots data = .ok snapshot) s kept sources
      (s.loadFrom heap data) ((s.under kept sources).loadFrom heap data) := by
  cases described : Snapshot.ofValue heap s.snapshots data with
  | error faults =>
    rw [loadFrom_of_error described,
      loadFrom_of_error (s := s.under kept sources) described]
    exact (fail s _).congr (by simp)
  | ok snapshot =>
    have hasked : Course True s kept sources (s.loadFrom heap data)
        ((s.under kept sources).loadFrom heap data) := by
      refine asked (fun c hc => ?_) fun e he => ?_
      · rw [loadFrom_of_ok hc described]
        exact ⟨_, done rfl rfl, fun hc' => loadFrom_of_ok hc' described⟩
      · exact ⟨_, .rebuilding, loadFrom_of_unloaded he described,
          fun he' => loadFrom_of_unloaded he' described⟩
    exact hasked.congr (by simp)

end Course

/-! ## Operations -/

/-- Scopes are the same wherever they are made. -/
theorem addScopes_under (s : Session) (kept : Option Config) (sources : Sources) (b : ScopeId)
    (count : Nat) :
    (s.under kept sources).addScopes b count =
      ((s.addScopes b count).1, (s.addScopes b count).2.under kept sources) := by
  induction count generalizing s b with
  | zero => rfl
  | succ count ih => exact ih (s.addScope (some b)).2 s.forest.size

theorem course_scopeStep (s : Session) (kept : Option Config) (sources : Sources) (op : ScopeOp) :
    Course (s.Asks (.scope op)) s kept sources (s.scopeStep op)
      ((s.under kept sources).scopeStep op) := by
  cases op with
  | create parent =>
    cases parent with
    | none => exact .withConfig fun c => .done rfl rfl
    | some p => exact .asking <| .withScope fun _ => .withConfig fun c => .done rfl rfl
  | top receiver => exact .withConfig fun c => .done rfl rfl
  | child p => exact .asking <| .withScope fun _ => .withConfig fun c => .done rfl rfl
  | descend p count =>
    cases count with
    | zero => exact .unasking <| .withScope fun _ => .answer s _
    | succ count =>
      refine .asking <| .withScope fun _ => .withConfig fun c => ?_
      obtain ⟨g, heq, -⟩ := becomes_addScopes { s with config := some c } p (count + 1)
      have hother := addScopes_under { s with config := some c } (some c) sources p (count + 1)
      rw [heq] at hother
      simp only [Session.answer, heq]
      simp only [under] at hother
      rw [hother]
      exact .done rfl rfl
  | parent b =>
    refine .unasking <| .withScope fun _ => ?_
    have hforest : (s.under kept sources).forest = s.forest := rfl
    rw [hforest]
    cases s.forest.parent? b with
    | some p => exact .answer s _
    | none => exact .answer s _
  | metadata b name =>
    refine .unasking <| .withScope fun _ => ?_
    have hforest : (s.under kept sources).forest = s.forest := rfl
    rw [hforest]
    cases s.forest.metadata b name with
    | some p => exact .answer s _
    | none => exact .fail s _
  | self b => exact .asking <| .withScope fun _ => .withConfig fun c => .lookup _ b _
  | context b => exact .asking <| .withScope fun _ => .withConfig fun c => .lookup _ b _
  | get b name => exact .unasking <| .withScope fun _ => .lookup s b name
  | set b name value metadata =>
    exact .unasking <| .withScope fun _ => .done rfl rfl
  | setGlobal b name value =>
    exact .unasking <| .withScope fun _ => .done rfl rfl
  | _ => exact .unasking <| .withScope fun _ => .answer s _

theorem course_scriptStep (s : Session) (kept : Option Config) (sources : Sources)
    (op : ScriptOp) :
    Course (s.Asks (.script op)) s kept sources (s.scriptStep op)
      ((s.under kept sources).scriptStep op) := by
  cases op with
  | create b context => exact .unasking <| .withScope fun _ => .done rfl rfl
  | build receiver context => exact .withConfig fun c => .done rfl rfl
  | child id lexical context receiver =>
    cases lexical with
    | false => exact .unasking <| .withScript fun _ => .done rfl rfl
    | true =>
      exact .asking <| .withScript fun script => .withReceiver fun s kept v =>
        .withConfig fun c => .done rfl rfl
  | self id => exact .asking <| .withScript fun _ => .withConfig fun c => .lookup _ _ _
  | get id name => exact .unasking <| .withScript fun _ => .lookup s _ name
  | set id name value => exact .unasking <| .withScript fun _ => .done rfl rfl
  | setGlobal id name value => exact .unasking <| .withScript fun _ => .done rfl rfl
  | _ => exact .unasking <| .withScript fun _ => .answer s _

theorem course_snapshotStep (s : Session) (kept : Option Config) (sources : Sources)
    (op : SnapshotOp) :
    Course (s.Asks (.snapshot op)) s kept sources (s.snapshotStep op)
      ((s.under kept sources).snapshotStep op) := by
  cases op with
  | capture b =>
    exact .asking <| .withScope fun _ => .withCapture fun c snapshot => .done rfl rfl
  | restore id =>
    exact .asking <| .withSnapshot fun _ => .withConfig fun c => .done rfl rfl
  | make fields =>
    rw [snapshotStep, snapshotStep]
    have hchecked : Snapshot.ofFields (s.under kept sources).heap (s.under kept sources).snapshots
      fields.dict = Snapshot.ofFields s.heap s.snapshots fields.dict := rfl
    rw [hchecked]
    cases Snapshot.ofFields s.heap s.snapshots fields.dict with
    | ok snapshot => exact .done rfl rfl
    | error faults => exact .fail s _
  | makeEntry fields =>
    rw [snapshotStep, snapshotStep]
    have hchecked : Snapshot.checkEntryFields (s.under kept sources).heap fields.dict =
      Snapshot.checkEntryFields s.heap fields.dict := rfl
    rw [hchecked]
    cases Snapshot.checkEntryFields s.heap fields.dict with
    | ok entry => exact .answer s _
    | error faults => exact .fail s _
  | serialize b =>
    refine .asking <| .withScope fun _ => .withCapture fun c snapshot => ?_
    simp only
    have hwrite : ({ s with config := some c, sources } : Session).write snapshot =
      ({ s with config := some c } : Session).write snapshot := rfl
    rw [hwrite]
    cases ({ s with config := some c } : Session).write snapshot with
    | ok text => exact .done rfl rfl
    | error r => exact .settled rfl rfl fun _ _ => rfl
  | deserialize text =>
    rw [snapshotStep, snapshotStep]
    cases hread : Json.read text.toList with
    | error stop => exact (Course.fail s _).congr (by simp [Asks, hread])
    | ok tree => exact (Course.loadFrom s _ _).congr (by simp [Asks, hread])
  | load data => exact .loadFrom s s.heap data
  | _ => exact .unasking <| .withSnapshot fun _ => .answer s _

/-- How an operation depends on the configuration, unless it is a reload or about sources. -/
theorem course_step (s : Session) (kept : Option Config) (sources : Sources) {op : Op}
    (apart : op.aboutSources = false) (lasting : op ≠ .settings .reload) :
    Course (s.Asks op) s kept sources (s.step op) ((s.under kept sources).step op) := by
  cases op with
  | scope op => exact course_scopeStep s kept sources op
  | script op => exact course_scriptStep s kept sources op
  | snapshot op => exact course_snapshotStep s kept sources op
  | host op =>
    have hheap : (s.under kept sources).heap = s.heap := rfl
    cases op with
    | give v => exact .answer s _
    | append id v =>
      show Course False s kept sources (s.hostStep (.append id v))
        ((s.under kept sources).hostStep (.append id v))
      rw [hostStep, hostStep, hheap]
      cases s.heap.append id v with
      | some heap => exact .done rfl rfl
      | none => exact .fail s _
    | put id key v =>
      show Course False s kept sources (s.hostStep (.put id key v))
        ((s.under kept sources).hostStep (.put id key v))
      rw [hostStep, hostStep, hheap]
      cases s.heap.put id key v with
      | some heap => exact .done rfl rfl
      | none => exact .fail s _
  | settings op =>
    cases op with
    | current => exact .withConfig fun c => .answer _ _
    | reload => exact absurd rfl lasting
    | _ => cases apart

/-- A configuration that is made from arguments depends on containers and sources only, and is
not kept. -/
theorem step_make (s : Session) (kept : Option Config) (arguments : Arguments) :
    (s.under kept s.sources).step (.settings (.make arguments)) =
      (s.under kept s.sources, (s.step (.settings (.make arguments))).2) := by
  show (s.under kept s.sources).settingsStep (.make arguments) =
    (s.under kept s.sources, (s.settingsStep (.make arguments)).2)
  have hmade : Settings.make (s.under kept s.sources).heap arguments.dict
      (s.under kept s.sources).sources = Settings.make s.heap arguments.dict s.sources := rfl
  rw [settingsStep, settingsStep, hmade]
  cases Settings.make s.heap arguments.dict s.sources with
  | ok c => rfl
  | error e => rfl

/-! ## Runs -/

def Calls (s : Session) : Event → Prop
  | .make _ => False
  | .op op => s.Asks op

def transcript (s : Session) : List Event → List (Op × Outcome)
  | [] => []
  | .make c :: rest => (s.after (.make c)).transcript rest
  | .op op :: rest => (op, (s.step op).2) :: (s.after (.op op)).transcript rest

end Session
end ScopeChain
