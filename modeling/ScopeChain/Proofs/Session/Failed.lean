/-
Operations that fail.

Scopes, snapshots, scripts, containers and sources are after a failing operation what they were
before.  What is kept is the same too, unless the operation has loaded the configuration on its
way, or is a reload, after which nothing is kept.  So whatever does not depend on what is kept is
answered later as if the failing operation had not been performed.
-/
import ScopeChain.Proofs.Session.Asking
import ScopeChain.Proofs.Session.Seen

namespace ScopeChain
namespace Session

variable {s : Session} {op : Op} {kept : Option Config} {f : Failure}

/-! ## What a failing operation leaves -/

theorem loadFrom_failed {heap : Heap} {data : Value}
    (failed : (s.loadFrom heap data).2.answer = .error f) : ∃ e, f = .snapshot e := by
  cases described : Snapshot.ofValue heap s.snapshots data with
  | error faults =>
    rw [loadFrom_of_error described] at failed
    cases failed
    exact ⟨_, rfl⟩
  | ok snapshot =>
    cases hc : s.configuration with
    | ok c =>
      rw [loadFrom_of_ok hc described] at failed
      cases failed
    | error e =>
      rw [loadFrom_of_unloaded hc described] at failed
      cases failed
      exact ⟨_, rfl⟩

theorem withCapture_failed {c : Config} {b : ScopeId}
    {next : Session → Snapshot → Session × Outcome} (known : s.configuration = .ok c)
    (ends : ∀ s snapshot f, (next s snapshot).2.answer = .error f → ∃ e, f = .snapshot e)
    (failed : (s.withCapture b next).2.answer = .error f) : ∃ e, f = .snapshot e := by
  rw [withCapture, withConfig_of_ok known] at failed
  simp only at failed
  split at failed
  next =>
    cases failed
    exact ⟨_, rfl⟩
  next =>
    split at failed
    next =>
      cases failed
      exact ⟨_, rfl⟩
    next => exact ends _ _ f failed

/-- Whether an operation fails with nothing but a failure on chains: always if it reads one, and
if it captures one that exists, wherever there is a configuration. -/
inductive FailsOnChains (s : Session) : Op → Prop where
  | deserialize (text : String) : FailsOnChains s (.snapshot (.deserialize text))
  | load (data : Value) : FailsOnChains s (.snapshot (.load data))
  | capture {b : ScopeId} {c : Config} (present : b < s.forest.size)
    (known : s.configuration = .ok c) : FailsOnChains s (.snapshot (.capture b))
  | serialize {b : ScopeId} {c : Config} (present : b < s.forest.size)
    (known : s.configuration = .ok c) : FailsOnChains s (.snapshot (.serialize b))

theorem FailsOnChains.failure (typed : s.FailsOnChains op)
    (failed : (s.step op).2.answer = .error f) : ∃ e, f = .snapshot e := by
  cases typed with
  | deserialize text =>
    have hstep : s.step (.snapshot (.deserialize text)) =
      s.snapshotStep (.deserialize text) := rfl
    rw [hstep, snapshotStep] at failed
    cases hread : Json.read text.toList with
    | error stop =>
      simp only [hread] at failed
      cases failed
      exact ⟨_, rfl⟩
    | ok tree =>
      simp only [hread] at failed
      exact loadFrom_failed failed
  | load data => exact loadFrom_failed failed
  | @capture b c present known =>
    have hstep : s.step (.snapshot (.capture b)) = s.snapshotStep (.capture b) := rfl
    rw [hstep, snapshotStep, if_pos present] at failed
    exact withCapture_failed known (fun s snapshot f h => by cases h) failed
  | @serialize b c present known =>
    have hstep : s.step (.snapshot (.serialize b)) = s.snapshotStep (.serialize b) := rfl
    rw [hstep, snapshotStep, if_pos present] at failed
    refine withCapture_failed known (fun s snapshot f h => ?_) failed
    simp only at h
    split at h
    next => cases h
    next =>
      cases h
      exact ⟨_, rfl⟩

end Session
end ScopeChain
