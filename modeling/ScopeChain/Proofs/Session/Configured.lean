/-
The configuration in force.

It is the one that is kept, or else the one that loads now.  An operation that needs it goes
on in a session that keeps it, or fails as the load does and leaves the session as it is.
-/
import ScopeChain.Session.Basic

namespace ScopeChain
namespace Session

variable {s : Session} {c : Config}

/-- The configuration that an operation would go on with. -/
def configuration (s : Session) : Except Settings.Failure Config := s.current.2

theorem current_of_ok (known : s.configuration = .ok c) :
    s.current = ({ s with config := some c }, .ok c) := by
  obtain ⟨heap, forest, snapshots, scripts, sources, config⟩ := s
  rw [configuration, current] at known
  rw [current]
  cases config with
  | some d =>
    cases known
    rfl
  | none =>
    simp only at known ⊢
    cases hload : Settings.load {} [] sources with
    | ok d =>
      rw [hload] at known
      cases known
      rfl
    | error e =>
      rw [hload] at known
      cases known

theorem current_of_error {e : Settings.Failure} (failed : s.configuration = .error e) :
    s.current = (s, .error e) := by
  obtain ⟨heap, forest, snapshots, scripts, sources, config⟩ := s
  rw [configuration, current] at failed
  rw [current]
  cases config with
  | some d => cases failed
  | none =>
    simp only at failed ⊢
    cases hload : Settings.load {} [] sources with
    | ok d =>
      rw [hload] at failed
      cases failed
    | error e =>
      rw [hload] at failed
      cases failed
      rfl

theorem withConfig_of_ok (known : s.configuration = .ok c)
    (next : Session → Config → Session × Outcome) :
    s.withConfig next = next { s with config := some c } c := by
  rw [withConfig, current_of_ok known]

theorem withConfig_of_error {e : Settings.Failure} (failed : s.configuration = .error e)
    (next : Session → Config → Session × Outcome) :
    s.withConfig next = s.fail (.settings e) := by
  rw [withConfig, current_of_error failed]
  rfl

/-- What goes on with the configuration goes on in the session that keeps it, or fails. -/
theorem withConfig_cases (s : Session) (next : Session → Config → Session × Outcome) :
    (∃ c, s.configuration = .ok c ∧ s.withConfig next = next { s with config := some c } c) ∨
      ∃ e, s.configuration = .error e ∧ s.withConfig next = s.fail (.settings e) := by
  cases h : s.configuration with
  | ok c => exact Or.inl ⟨c, rfl, withConfig_of_ok h next⟩
  | error e => exact Or.inr ⟨e, rfl, withConfig_of_error h next⟩

theorem configuration_of_kept (kept : s.config = some c) : s.configuration = .ok c := by
  rw [configuration, current_of_config kept]

def loads (s : Session) : Except Settings.Failure Config := Settings.load {} [] s.sources

theorem configuration_of_none (nothing : s.config = none) : s.configuration = s.loads := by
  simp only [configuration, current, nothing, loads]
  cases Settings.load {} [] s.sources with
  | ok c => rfl
  | error e => rfl

theorem configuration_congr {t : Session} (sources : t.sources = s.sources)
    (kept : t.config = s.config) : t.configuration = s.configuration := by
  cases hkept : s.config with
  | some c => rw [configuration_of_kept hkept, configuration_of_kept (kept.trans hkept)]
  | none =>
    rw [configuration_of_none hkept, configuration_of_none (kept.trans hkept), loads, loads,
      sources]

end Session
end ScopeChain
