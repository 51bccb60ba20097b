/-
What is found in data that is refused.

The findings about data that is loaded are those about the fields of each scope, in their order,
and at most one about the shape of a scope: that of the misshapen scope nearest to the global one,
if all fields from there on can be read.  They are all in the details of the error.
-/
import ScopeChain.Proofs.Session.Reach
import ScopeChain.Proofs.Session.Rebuilt
import ScopeChain.Proofs.Snapshot.Misshapen

namespace ScopeChain
namespace Session

variable {s : Session} {data : Value}

/-- Data without snapshots that nests fewer than 256 scopes is read, or there are findings about
it.  With findings it is not loaded, nothing changes, and the details of the error list them all in
their order. -/
theorem load_findings (reachable : s.Reachable) {n : Nat} (nests : Nests s.heap data n)
    (few : n < 256) (plain : ∀ id, ¬ s.heap.Holds data (.snapshot id)) :
    let checked := Snapshot.ofValue s.heap s.snapshots data
    Snapshot.Findings s.heap data checked.faults ∧
    (checked.faults = [] → ∃ snapshot, checked = .ok snapshot) ∧
    (checked.faults ≠ [] → ∃ e, e = SnapshotError.invalid checked.faults ∧
      s.step (.snapshot (.load data)) = (s, .fail (.snapshot e)) ∧
      e.details = "; ".intercalate (checked.faults.map Fault.message)) := by
  intro checked
  have hproper := reachable.proper.heap
  refine ⟨Snapshot.findings_ofValue hproper nests few plain,
    (Snapshot.orderly_checkScope hproper).succeeds, fun found => ⟨_, rfl, ?_, rfl⟩⟩
  cases hchecked : checked with
  | ok snapshot =>
    rw [hchecked] at found
    exact absurd rfl found
  | error faults => exact loadFrom_of_error hchecked

def misfitting : Session := (start ⟨[], none⟩).afterAll [
  .make (.dict [(.text "depth", .int 0), (.text "is_global", .bool true)]),
  .make (.dict [(.text "depth", .int 3), (.text "is_global", .bool false),
    (.text "parent", .container 0)]),
  .make (.dict [(.int 7, .null)]),
  .make (.dict [(.text "name", .int 1), (.text "meta", .container 2)]),
  .make (.list [.int 5, .container 3]),
  .make (.dict [(.text "depth", .int (-1)), (.text "is_global", .bool false),
    (.text "variables", .container 4), (.text "parent", .container 1)])]

/-- The findings about the fields of the innermost scope come before the one about the shape of
the scope around it, and that scope alone has the latter only. -/
theorem misfitting_findings :
    misfitting.step (.snapshot (.load (.container 5))) =
      (misfitting, .fail (.snapshot (.invalid [
        ⟨[.field "depth"], .below 0⟩,
        ⟨[.field "variables", .index 0], .notEntry⟩,
        ⟨[.field "variables", .index 1, .field "name"], .notText⟩,
        ⟨[.field "variables", .index 1, .field "meta", .key (.int 7)], .notText⟩,
        ⟨[.field "parent"], .depthMismatch 3 1⟩]))) ∧
    ∃ fault, (Snapshot.ofValue misfitting.heap misfitting.snapshots (.container 1)).faults =
      [fault] ∧ fault.issue.isShape = true := by
  have hreachable : misfitting.Reachable := ⟨_, _, rfl⟩
  have hsteady : ∀ id, misfitting.heap.Steady (.container id) := fun id =>
    Heap.steady_of_cells (by decide) trivial
  have hplain : ∀ id k, ¬ misfitting.heap.Holds (.container id) (.snapshot k) :=
    fun id k held => hsteady id _ held
  have hinner : Nests misfitting.heap (.container 1) 2 :=
    .inside rfl rfl (by decide) (.last rfl fun p hp => nomatch hp)
  have hall : Nests misfitting.heap (.container 5) 3 := .inside rfl rfl (by decide) hinner
  obtain ⟨-, -, hrefused⟩ := load_findings hreachable hall (by decide) (hplain 5)
  obtain ⟨hfindings, -, -⟩ := load_findings hreachable hinner (by decide) (hplain 1)
  obtain ⟨e, rfl, hstep, -⟩ := hrefused (List.cons_ne_nil _ _)
  have hdescribed : DescribesChain misfitting.heap (.container 1) [⟨3, false⟩, ⟨0, true⟩] :=
    .inside rfl ⟨⟨_, rfl, rfl⟩, ⟨_, rfl, rfl⟩, fun v hv => nomatch hv⟩ rfl (by decide)
      (.last rfl ⟨⟨_, rfl, rfl⟩, ⟨_, rfl, rfl⟩, fun v hv => nomatch hv⟩ fun p hp => nomatch hp)
  exact ⟨hstep, (hfindings.only _ hdescribed (by decide)).2 (List.cons_ne_nil _ _)⟩

end Session
end ScopeChain
