/-
What operations leave in the log.

An operation leaves one record at most.  It is about a name that is looked up and not found, about
a global write that is made elsewhere than in the global scope, about a chain that is captured, or
about one that is rebuilt.  Its numbers are what the scopes answer about their depth.  All other
operations leave none, and these leave none either where they fail otherwise.
-/
import ScopeChain.Proofs.Session.Accepted
import ScopeChain.Proofs.Session.Endings

namespace ScopeChain
namespace Session

variable {s : Session} {op : Op} {b : ScopeId} {record : Record} {snapshot : Snapshot}

/-- Whether an operation gives rise to a record.  A chain is captured if it is a snapshot that is
answered where that is asked for, whatever becomes of it where it is to be written. -/
inductive Emits (s : Session) (op : Op) : Record → Prop where
  | lookupFailed {b : ScopeId} {name : String} {n : Nat} (looks : s.LooksUp op b name)
    (failed : (s.step op).2.answer = .error (.unknownVariable name))
    (depth : s.ask (.depth b) = .reply (.number n)) : Emits s op (.lookupFailed name n)
  | globalWrite {b d : ScopeId} {name : String} {n : Nat} (writes : s.WritesGlobally op b name)
    (root : s.ask (.root b) = .reply (.scope d)) (elsewhere : d ≠ b)
    (depth : s.ask (.depth b) = .reply (.number n)) : Emits s op (.globalWrite name n)
  | captured {b : ScopeId} {id : SnapshotId} {n : Nat} (capturing : Capturing b op)
    (answered : (s.step (.snapshot (.capture b))).2.answer = .ok (.snapshot id))
    (depth : s.ask (.depth b) = .reply (.number n)) : Emits s op (.captured (n + 1))
  | restored {b : ScopeId} {n : Nat} (rebuilds : s.Rebuilds op b)
    (depth : (s.step op).1.ask (.depth b) = .reply (.number n)) : Emits s op (.restored (n + 1))

/-! ## Depths -/

/-- A scope answers its depth if it exists. -/
theorem ask_depth_eq {n : Nat} (depth : s.ask (.depth b) = .reply (.number n)) :
    b < s.forest.size ∧ s.forest.depth b = n := by
  by_cases present : b < s.forest.size
  · rw [ask_depth present] at depth
    cases depth
    exact ⟨present, rfl⟩
  · have habsent : s.ask (.depth b) = .fail .absent := congrArg Prod.snd (if_neg present)
    rw [habsent] at depth
    cases depth

theorem ask_root (present : b < s.forest.size) :
    s.ask (.root b) = .reply (.scope (s.forest.root b)) :=
  ask_answer present rfl

theorem scopeCount_of_capture (captured : Snapshot.capture s.forest b = .ok snapshot) :
    snapshot.scopeCount = s.forest.depth b + 1 := by
  obtain ⟨-, -, hall⟩ := Snapshot.capture_eq_ok.mp captured
  rw [Snapshot.scopeCount, ← hall.length_eq, Forest.length_chain]

theorem ask_depth_of_rebuild (s : Session) (snapshot : Snapshot) :
    (s.rebuild snapshot).1.ask (.depth (snapshot.restore s.forest).1) =
      .reply (.number snapshot.outer.length) := by
  have hrebuilt := Snapshot.rebuilt_restore s.forest snapshot
  have hlength := congrArg List.length (hrebuilt.chain _ rfl)
  rw [Forest.length_chain, hrebuilt.locals.length_eq] at hlength
  have hdepth : (s.rebuild snapshot).1.forest.depth (snapshot.restore s.forest).1 =
      snapshot.outer.length := Nat.succ.inj hlength
  rw [ask_depth hrebuilt.present, hdepth]

/-! ## Records -/

def Logs (s : Session) (op : Op) : Prop :=
  (s.step op).2.log = [] ∨ ∃ record, s.Emits op record ∧ (s.step op).2.log = [record]

theorem logs_step (sited : s.Sited) (op : Op) : s.Logs op := by
  have hending := ending_step sited op
  rw [Logs]
  generalize hr : (s.step op).2 = o at hending
  cases hending with
  | fails f => exact Or.inl rfl
  | replies kind => exact Or.inl rfl
  | misses looks present =>
    exact Or.inr ⟨_, .lookupFailed looks (by rw [hr]) (ask_depth present), rfl⟩
  | @binds b name a writes present kind =>
    rw [globalWriteLog]
    by_cases hroot : s.forest.root b = b
    · exact Or.inl (if_pos hroot)
    · exact Or.inr
        ⟨_, .globalWrite writes (ask_root present) hroot (ask_depth present), if_neg hroot⟩
  | captures capturing present captured kind =>
    rw [scopeCount_of_capture captured.taken]
    have hcapture := capture_of_ok captured.known present captured.shallow captured.taken
    exact Or.inr ⟨_, .captured capturing (by rw [hcapture]) (ask_depth present), rfl⟩
  | @rebuilds t snapshot rebuilding rebuilt =>
    have hrebuilds : s.Rebuilds op (snapshot.restore t.forest).1 :=
      ⟨rebuilding, congrArg Outcome.answer hr⟩
    have hdepth := ask_depth_of_rebuild t snapshot
    rw [← rebuilt] at hdepth
    exact Or.inr ⟨_, .restored hrebuilds hdepth, rfl⟩

/-- What an operation gives rise to is the record that it leaves. -/
theorem Emits.log (emits : s.Emits op record) : (s.step op).2.log = [record] := by
  cases emits with
  | lookupFailed looks failed depth =>
    obtain ⟨present, rfl⟩ := ask_depth_eq depth
    rcases looks.cases present with ⟨a, ha, -⟩ | hfails
    · rw [ha] at failed
      cases failed
    · rw [hfails]
  | globalWrite writes root elsewhere depth =>
    obtain ⟨present, rfl⟩ := ask_depth_eq depth
    rw [ask_root present] at root
    cases root
    obtain ⟨a, ha, -⟩ := writes.outcome present
    rw [ha]
    exact if_neg elsewhere
  | captured capturing answered depth =>
    obtain ⟨present, rfl⟩ := ask_depth_eq depth
    rcases capturing.cases present with ⟨c, snapshot, a, captured, ha, -⟩ | ⟨⟨f, hf⟩, -⟩
    · rw [ha, scopeCount_of_capture captured.taken]
    · rw [hf] at answered
      cases answered
  | restored rebuilds depth =>
    rcases rebuilding_cases (s := s) rebuilds.rebuilding with ⟨t, snapshot, heq⟩ | ⟨f, heq⟩
    · have hanswered := rebuilds.answered
      rw [heq] at hanswered depth ⊢
      have hscope : (snapshot.restore t.forest).1 = _ := Reply.scope.inj (Except.ok.inj hanswered)
      rw [← hscope, ask_depth_of_rebuild] at depth
      cases depth
      rfl
    · have hanswered := rebuilds.answered
      rw [heq] at hanswered
      cases hanswered

/-- In every session that can be reached, every operation leaves one record at most, and it leaves
a record exactly if it gives rise to it: a lookup of a value that fails, a global write made
elsewhere than in the global scope, a chain that is captured, and one that is rebuilt. -/
theorem log_accounted (reachable : s.Reachable) (op : Op) :
    (s.step op).2.log.length ≤ 1 ∧
      ∀ record, record ∈ (s.step op).2.log ↔ s.Emits op record := by
  have hemits : ∀ record, s.Emits op record → record ∈ (s.step op).2.log := fun record emits => by
    rw [emits.log]
    exact List.mem_singleton.mpr rfl
  rcases logs_step reachable.proper.sited op with hsilent | ⟨record, emits, hlog⟩
  · refine ⟨by rw [hsilent]; exact Nat.zero_le 1, fun record => ⟨fun h => ?_, hemits record⟩⟩
    rw [hsilent] at h
    cases h
  · refine ⟨by rw [hlog]; exact Nat.le_refl 1, fun other => ⟨fun h => ?_, hemits other⟩⟩
    rw [hlog] at h
    rwa [List.mem_singleton.mp h]

def opaqueInside : Session := (start ⟨[], none⟩).afterAll [
  .op (.scope (.create none)), .op (.scope (.descend 0 2)),
  .op (.scope (.set 2 "x" (.object "socket") none))]

/-- A chain that is not written is captured all the same.  The depth in a record is that of the
scope that is asked, and neither metadata that are missing nor a global write in the global scope
leave a record. -/
theorem opaqueInside_accounted :
    opaqueInside.Emits (.snapshot (.serialize 2)) (.captured 3) ∧
      (opaqueInside.step (.snapshot (.serialize 2))).2.answer.isOk = false ∧
      opaqueInside.Emits (.scope (.get 1 "x")) (.lookupFailed "x" 1) ∧
      opaqueInside.Emits (.scope (.setGlobal 2 "y" .null)) (.globalWrite "y" 2) ∧
      ¬ ∃ record, opaqueInside.Emits (.scope (.setGlobal 0 "y" .null)) record ∨
        opaqueInside.Emits (.scope (.metadata 1 "x")) record := by
  have hreachable : opaqueInside.Reachable := ⟨_, _, rfl⟩
  have hleft : ∀ {op : Op} {record : Record}, (opaqueInside.step op).2.log = [record] →
      opaqueInside.Emits op record := fun hlog =>
    ((log_accounted hreachable _).2 _).mp (by rw [hlog]; exact List.mem_singleton.mpr rfl)
  have hsilent : ∀ {op : Op} {record : Record}, (opaqueInside.step op).2.log = [] →
      ¬ opaqueInside.Emits op record := fun hlog emits => by
    have hrecord := ((log_accounted hreachable _).2 _).mpr emits
    rw [hlog] at hrecord
    cases hrecord
  refine ⟨hleft (by decide +kernel), by decide +kernel, hleft (by decide +kernel),
    hleft (by decide +kernel), ?_⟩
  rintro ⟨record, emits | emits⟩
  · exact hsilent (by decide +kernel) emits
  · exact hsilent (by decide +kernel) emits

end Session
end ScopeChain
