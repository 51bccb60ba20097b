/-
The data that is loaded.

A value without snapshots is loaded exactly if it describes a chain of at most 255 scopes whose
levels count down to a global one.  The rebuilt chain then has the depths and the global flags
that were described.  All other values are refused, and nothing changes.
-/
import ScopeChain.Proofs.Scope.Chain
import ScopeChain.Proofs.Session.Rebuilt
import ScopeChain.Proofs.Session.Seen
import ScopeChain.Proofs.Snapshot.Described

namespace ScopeChain

/-- Along every chain the scopes are on the levels that count down as far. -/
theorem Forest.levels_chain {f : Forest} {b : ScopeId} {levels : List Level}
    (counted : Counted levels) (length : levels.length = (f.chain b).length) :
    List.Forall₂ (fun (level : Level) d =>
      level.depth = (f.depth d : Int) ∧ level.isGlobal = f.isGlobal d) levels (f.chain b) := by
  induction levels generalizing b with
  | nil =>
    rw [chain_eq] at length
    cases length
  | cons level outer ih =>
    obtain ⟨hdepth, hroot, hcounted⟩ := counted
    have hlength : outer.length = f.depth b := Nat.succ.inj (length.trans (length_chain f b))
    cases hp : f.parent? b with
    | none =>
      rw [chain_of_global hp] at length ⊢
      obtain rfl := List.length_eq_zero_iff.mp (Nat.succ.inj length)
      refine .cons ⟨hdepth.trans (congrArg Nat.cast hlength), ?_⟩ .nil
      rw [hroot, isGlobal, hp]
      rfl
    | some p =>
      rw [chain_of_parent hp] at length ⊢
      have houter : outer.length = (f.chain p).length := Nat.succ.inj length
      refine .cons ⟨hdepth.trans (congrArg Nat.cast hlength), ?_⟩ (ih hcounted houter)
      rw [hroot, isGlobal, hp, Listwise.isEmpty_congr houter, chain_eq]
      rfl

/-- Whether a value describes a chain that can be loaded. -/
structure Loadable (heap : Heap) (data : Value) (levels : List Level) : Prop where
  describes : DescribesChain heap data levels
  counted : Counted levels
  room : levels.length ≤ 255

namespace Snapshot

variable {heap : Heap} {snapshots : Array Snapshot} {data : Value} {levels : List Level}

theorem ofValue_of_loadable (loadable : Loadable heap data levels) :
    ∃ s, ofValue heap snapshots data = .ok s ∧ s.HasLevels levels :=
  checkScope_of_describes loadable.describes loadable.counted loadable.room
    fun _ h => absurd h List.not_mem_nil

theorem loadable_of_ofValue (plain : ∀ id, ¬ heap.Holds data (.snapshot id)) {s : Snapshot}
    (accepted : ofValue heap snapshots data = .ok s) : ∃ levels, Loadable heap data levels := by
  obtain ⟨levels, hdescribes, hcounted, hroom, -⟩ := finds_of_checkScope plain accepted
  exact ⟨levels, hdescribes, hcounted, hroom⟩

end Snapshot

namespace Session

variable {s : Session} {c : Config} {b : ScopeId} {data : Value}

theorem ask_chain (present : b < s.forest.size) :
    s.ask (.chain b) = .reply (.scopes (s.forest.chain b)) :=
  ask_answer present rfl

theorem ask_depth (present : b < s.forest.size) :
    s.ask (.depth b) = .reply (.number (s.forest.depth b)) :=
  ask_answer present rfl

theorem ask_isGlobal (present : b < s.forest.size) :
    s.ask (.isGlobal b) = .reply (.flag (s.forest.isGlobal b)) :=
  ask_answer present rfl

def OnLevel (s : Session) (level : Level) (b : ScopeId) : Prop :=
  (∃ n : Nat, level.depth = n ∧ s.ask (.depth b) = .reply (.number n)) ∧
    s.ask (.isGlobal b) = .reply (.flag level.isGlobal)

/-- A chain that is rebuilt from a snapshot has its levels. -/
theorem rebuild_levels {snapshot : Snapshot} {levels : List Level}
    (has : snapshot.HasLevels levels) (counted : Counted levels) :
    ∃ b ds, (s.rebuild snapshot).2 = ⟨.ok (.scope b), [.restored levels.length]⟩ ∧
      (s.rebuild snapshot).1.ask (.chain b) = .reply (.scopes ds) ∧
      List.Forall₂ (s.rebuild snapshot).1.OnLevel levels ds := by
  have hrebuilt := Snapshot.rebuilt_restore s.forest snapshot
  have hchain := hrebuilt.chain _ rfl
  have hpresent : ∀ d ∈ (snapshot.restore s.forest).2.chain (snapshot.restore s.forest).1,
      d < (s.rebuild snapshot).1.forest.size := by
    intro d hd
    rw [hchain] at hd
    exact Nat.lt_of_lt_of_eq (Snapshot.mem_newScopes.mp hd).2 hrebuilt.size.symm
  have hlength : levels.length =
      ((snapshot.restore s.forest).2.chain (snapshot.restore s.forest).1).length := by
    rw [hchain, hrebuilt.locals.length_eq, has.count]
  refine ⟨(snapshot.restore s.forest).1, _, ?_, ask_chain (hpresent _ (Forest.mem_chain_self ..)),
    Listwise.imp (Forest.levels_chain counted hlength) fun level _ d hd ⟨hdepth, hroot⟩ => ?_⟩
  · rw [← has.count]
    rfl
  · refine ⟨⟨_, hdepth, ask_depth (hpresent d hd)⟩, ?_⟩
    rw [hroot]
    exact ask_isGlobal (hpresent d hd)

/-- With a configuration in force, a value without snapshots is loaded exactly if it describes a
chain that can be loaded.  The chain is then rebuilt with a scope for each level, which answers
the depth and the global flag of the level.  If the value describes no such chain, the findings
about it are the answer, and the session stays as it is. -/
theorem load_accepts (known : s.configuration = .ok c)
    (plain : ∀ id, ¬ s.heap.Holds data (.snapshot id)) :
    let r := s.step (.snapshot (.load data))
    ((∃ b, r.2.answer = .ok (.scope b)) ↔ ∃ levels, Loadable s.heap data levels) ∧
    (∀ levels, Loadable s.heap data levels →
      ∃ b ds, r.2 = ⟨.ok (.scope b), [.restored levels.length]⟩ ∧
        r.1.ask (.chain b) = .reply (.scopes ds) ∧ List.Forall₂ r.1.OnLevel levels ds) ∧
    ((¬ ∃ levels, Loadable s.heap data levels) →
      ∃ faults, r = (s, ⟨.error (.snapshot (.invalid faults)), []⟩)) := by
  intro r
  have hloaded : ∀ levels, Loadable s.heap data levels →
      ∃ b ds, r.2 = ⟨.ok (.scope b), [.restored levels.length]⟩ ∧
        r.1.ask (.chain b) = .reply (.scopes ds) ∧ List.Forall₂ r.1.OnLevel levels ds := by
    intro levels loadable
    obtain ⟨snapshot, hread, hlevels⟩ := Snapshot.ofValue_of_loadable loadable
    rw [show r = _ from loadFrom_of_ok known hread]
    exact rebuild_levels hlevels loadable.counted
  have hrefused : (¬ ∃ levels, Loadable s.heap data levels) →
      ∃ faults, r = (s, ⟨.error (.snapshot (.invalid faults)), []⟩) := by
    intro none
    cases hread : Snapshot.ofValue s.heap s.snapshots data with
    | ok snapshot => exact absurd (Snapshot.loadable_of_ofValue plain hread) none
    | error faults => exact ⟨faults, loadFrom_of_error hread⟩
  refine ⟨⟨fun ⟨b, hb⟩ => ?_, fun ⟨levels, loadable⟩ => ?_⟩, hloaded, hrefused⟩
  · by_contra none
    obtain ⟨faults, hr⟩ := hrefused none
    rw [hr] at hb
    cases hb
  · obtain ⟨b, ds, hr, -⟩ := hloaded levels loadable
    exact ⟨b, by rw [hr]⟩

def nestedDicts : Session := (start ⟨[], none⟩).afterAll [
  .make (.dict [(.text "depth", .int 0), (.text "is_global", .bool true)]),
  .make (.dict [(.text "name", .bytes [0x78]), (.text "meta", .null)]),
  .make (.tuple [.container 1]),
  .make (.dict [(.text "depth", .bool true), (.text "is_global", .text "no"),
    (.text "variables", .container 2), (.text "parent", .container 0)])]

/-- The dict of the inner scope is loaded, and the tuple of its variables is refused. -/
theorem nestedDicts_loaded :
    let r := nestedDicts.step (.snapshot (.load (.container 3)))
    (∃ b ds, r.2 = ⟨.ok (.scope b), [.restored 2]⟩ ∧
      r.1.ask (.chain b) = .reply (.scopes ds) ∧
      List.Forall₂ r.1.OnLevel [⟨1, false⟩, ⟨0, true⟩] ds) ∧
    ∃ faults, nestedDicts.step (.snapshot (.load (.container 2))) =
      (nestedDicts, ⟨.error (.snapshot (.invalid faults)), []⟩) := by
  obtain ⟨c, hknown⟩ : ∃ c, nestedDicts.configuration = .ok c := ⟨_, rfl⟩
  have hsteady : ∀ id, nestedDicts.heap.Steady (.container id) := fun id =>
    Heap.steady_of_cells (by decide) trivial
  have hplain : ∀ id k, ¬ nestedDicts.heap.Holds (.container id) (.snapshot k) :=
    fun id k held => hsteady id _ held
  have hloadable : Loadable nestedDicts.heap (.container 3) [⟨1, false⟩, ⟨0, true⟩] := by
    refine ⟨.inside rfl ⟨⟨_, rfl, rfl⟩, ⟨_, rfl, rfl⟩, ?_⟩ rfl (by decide)
      (.last rfl ⟨⟨_, rfl, rfl⟩, ⟨_, rfl, rfl⟩, ?_⟩ ?_), ⟨rfl, rfl, rfl, rfl, trivial⟩, by decide⟩
    · rintro _ ⟨⟩
      refine ⟨_, rfl, fun v hv => ?_⟩
      obtain rfl := List.mem_singleton.mp hv
      exact ⟨_, rfl, ⟨"x", _, rfl, rfl⟩, fun v hv hne => absurd (Option.some.inj hv).symm hne⟩
    · exact fun v hv => nomatch hv
    · exact fun p hp => nomatch hp
  obtain ⟨-, hloaded, -⟩ := load_accepts hknown (hplain 3)
  obtain ⟨-, -, hrefused⟩ := load_accepts hknown (hplain 2)
  refine ⟨hloaded _ hloadable, hrefused ?_⟩
  rintro ⟨levels, hdescribes, -, -⟩
  cases hdescribes with
  | last dict => cases dict
  | inside dict => cases dict

end Session
end ScopeChain
