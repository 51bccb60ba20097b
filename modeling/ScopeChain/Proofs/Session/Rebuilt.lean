/-
Operations that capture a chain and those that rebuild one.

What is captured is kept as a new snapshot.  A snapshot is restored, and data or a text that
describes a chain is loaded, as a chain of new scopes in front of which nothing else is made.
-/
import ScopeChain.Proofs.Session.Configured
import ScopeChain.Proofs.Snapshot.Restore
import ScopeChain.Session.Step

namespace ScopeChain

inductive Op.Rebuilding : Op → Prop where
  | restore (id : SnapshotId) : Rebuilding (.snapshot (.restore id))
  | deserialize (text : String) : Rebuilding (.snapshot (.deserialize text))
  | load (data : Value) : Rebuilding (.snapshot (.load data))

namespace Session

variable {s : Session} {c : Config} {b : ScopeId} {id : SnapshotId} {snapshot : Snapshot}

/-! ## Snapshots -/

theorem capture_of_ok (known : s.configuration = .ok c) (present : b < s.forest.size)
    (shallow : s.forest.depth b ≤ c.maxSnapshotDepth)
    (captured : Snapshot.capture s.forest b = .ok snapshot) :
    s.step (.snapshot (.capture b)) =
      ({ s with config := some c, snapshots := s.snapshots.push snapshot },
        ⟨.ok (.snapshot s.snapshots.size), [.captured snapshot.scopeCount]⟩) := by
  show s.snapshotStep (.capture b) = _
  rw [snapshotStep, if_pos present, withCapture, withConfig_of_ok known]
  simp only [if_neg (Nat.not_lt.mpr shallow), captured, addSnapshot]

theorem capture_of_deep (known : s.configuration = .ok c) (present : b < s.forest.size)
    (deep : c.maxSnapshotDepth < s.forest.depth b) :
    s.step (.snapshot (.capture b)) =
      ({ s with config := some c },
        .fail (.snapshot (.tooDeep (s.forest.depth b) c.maxSnapshotDepth))) := by
  show s.snapshotStep (.capture b) = _
  rw [snapshotStep, if_pos present, withCapture, withConfig_of_ok known]
  exact if_pos deep

theorem capture_of_error (known : s.configuration = .ok c) (present : b < s.forest.size)
    (shallow : s.forest.depth b ≤ c.maxSnapshotDepth) {faults : List Fault}
    (refused : Snapshot.capture s.forest b = .error faults) :
    s.step (.snapshot (.capture b)) =
      ({ s with config := some c }, .fail (.snapshot (.uncapturable faults))) := by
  show s.snapshotStep (.capture b) = _
  rw [snapshotStep, if_pos present, withCapture, withConfig_of_ok known]
  simp only [if_neg (Nat.not_lt.mpr shallow), refused]
  rfl

theorem capture_of_answered
    (captured : (s.step (.snapshot (.capture b))).2.answer = .ok (.snapshot id)) :
    ∃ c snapshot, Snapshot.capture s.forest b = .ok snapshot ∧ id = s.snapshots.size ∧
      b < s.forest.size ∧ (s.step (.snapshot (.capture b))).1 =
        { s with config := some c, snapshots := s.snapshots.push snapshot } := by
  have hstep : s.step (.snapshot (.capture b)) = s.snapshotStep (.capture b) := rfl
  rw [hstep, snapshotStep] at captured ⊢
  by_cases present : b < s.forest.size
  · rw [if_pos present, withCapture] at captured ⊢
    cases hc : s.configuration with
    | error e =>
      rw [withConfig_of_error hc] at captured
      cases captured
    | ok c =>
      rw [withConfig_of_ok hc] at captured ⊢
      simp only at captured ⊢
      split at captured
      next => cases captured
      next shallow =>
        rw [if_neg shallow]
        cases hs : Snapshot.capture s.forest b with
        | error faults =>
          rw [hs] at captured
          cases captured
        | ok snapshot =>
          rw [hs] at captured
          cases captured
          exact ⟨c, snapshot, rfl, rfl, present, rfl⟩
  · rw [if_neg present] at captured
    cases captured

theorem frames_of_found (found : s.snapshots[id]? = some snapshot) :
    s.step (.snapshot (.frames id)) = (s, .reply (.frames snapshot.frames)) := by
  show s.withSnapshot id (fun snapshot => s.answer (.frames snapshot.frames)) = _
  rw [withSnapshot, found]
  rfl

theorem scopeCount_of_found (found : s.snapshots[id]? = some snapshot) :
    s.step (.snapshot (.scopeCount id)) = (s, .reply (.number snapshot.scopeCount)) := by
  show s.withSnapshot id (fun snapshot => s.answer (.number snapshot.scopeCount)) = _
  rw [withSnapshot, found]
  rfl

theorem restore_of_found (known : s.configuration = .ok c)
    (found : s.snapshots[id]? = some snapshot) :
    s.step (.snapshot (.restore id)) =
      ({ s with config := some c } : Session).rebuild snapshot := by
  show s.withSnapshot id (fun snapshot => s.withConfig fun s _ => s.rebuild snapshot) = _
  rw [withSnapshot, found]
  exact withConfig_of_ok known _

/-! ## Data -/

section Load

variable {heap : Heap} {data : Value}

theorem loadFrom_of_ok (known : s.configuration = .ok c)
    (described : Snapshot.ofValue heap s.snapshots data = .ok snapshot) :
    s.loadFrom heap data = ({ s with heap, config := some c } : Session).rebuild snapshot := by
  simp only [loadFrom, described, current_of_ok known]

theorem loadFrom_of_error {faults : List Fault}
    (refused : Snapshot.ofValue heap s.snapshots data = .error faults) :
    s.loadFrom heap data = s.fail (.snapshot (.invalid faults)) := by
  simp only [loadFrom, refused]

theorem loadFrom_of_unloaded {e : Settings.Failure} (failed : s.configuration = .error e)
    (described : Snapshot.ofValue heap s.snapshots data = .ok snapshot) :
    s.loadFrom heap data = s.fail (.snapshot (.ofSettings e)) := by
  simp only [loadFrom, described, current_of_error failed]

theorem loadFrom_of_answered (answered : (s.loadFrom heap data).2.answer = .ok (.scope b)) :
    ∃ c snapshot, s.loadFrom heap data =
      ({ s with heap, config := some c } : Session).rebuild snapshot := by
  cases hs : Snapshot.ofValue heap s.snapshots data with
  | error faults =>
    rw [loadFrom_of_error hs] at answered
    cases answered
  | ok snapshot =>
    cases hc : s.configuration with
    | error e =>
      simp only [loadFrom, hs, current_of_error hc] at answered
      cases answered
    | ok c => exact ⟨c, snapshot, loadFrom_of_ok hc hs⟩

end Load

/-! ## Rebuilt chains -/

/-- Whether an operation rebuilds a chain whose innermost scope is `b`. -/
structure Rebuilds (s : Session) (op : Op) (b : ScopeId) : Prop where
  rebuilding : op.Rebuilding
  answered : (s.step op).2.answer = .ok (.scope b)

/-- An operation that rebuilds a chain goes on with the configuration, and rebuilds a snapshot in
the forest that was there before. -/
theorem Rebuilds.eq_rebuild {op : Op} (rebuilds : s.Rebuilds op b) :
    ∃ heap c snapshot, s.step op =
      ({ s with heap, config := some c } : Session).rebuild snapshot := by
  obtain ⟨rebuilding, answered⟩ := rebuilds
  cases rebuilding with
  | restore id =>
    have hstep : s.step (.snapshot (.restore id)) =
      s.withSnapshot id fun snapshot => s.withConfig fun s _ => s.rebuild snapshot := rfl
    rw [hstep, withSnapshot] at answered
    split at answered
    next snapshot found =>
      cases hc : s.configuration with
      | error e =>
        rw [withConfig_of_error hc] at answered
        cases answered
      | ok c => exact ⟨s.heap, c, snapshot, restore_of_found hc found⟩
    next => cases answered
  | deserialize text =>
    have hstep : s.step (.snapshot (.deserialize text)) =
      s.snapshotStep (.deserialize text) := rfl
    rw [hstep, snapshotStep] at answered ⊢
    cases hread : Json.read text.toList with
    | error stop =>
      simp only [hread] at answered
      cases answered
    | ok tree =>
      simp only [hread] at answered ⊢
      exact ⟨_, loadFrom_of_answered answered⟩
  | load data => exact ⟨s.heap, loadFrom_of_answered answered⟩

theorem Rebuilds.rebuilt {op : Op} (rebuilds : s.Rebuilds op b) :
    (∃ c, (s.step op).1.config = some c) ∧
      ∃ frames, Snapshot.Rebuilt s.forest frames (some b) (s.step op).1.forest := by
  obtain ⟨heap, c, snapshot, heq⟩ := rebuilds.eq_rebuild
  have hanswered := rebuilds.answered
  rw [heq] at hanswered ⊢
  cases hanswered
  exact ⟨⟨c, rfl⟩, snapshot.frames, Snapshot.rebuilt_restore s.forest snapshot⟩

theorem Rebuilds.new {op : Op} (rebuilds : s.Rebuilds op b) {d : ScopeId}
    (mem : d ∈ (s.step op).1.forest.chain b) :
    s.forest.size ≤ d ∧ d < (s.step op).1.forest.size := by
  obtain ⟨-, frames, hrebuilt⟩ := rebuilds.rebuilt
  rw [hrebuilt.chain b rfl] at mem
  rw [hrebuilt.size]
  exact Snapshot.mem_newScopes.mp mem

end Session
end ScopeChain
