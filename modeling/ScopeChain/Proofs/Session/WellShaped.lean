/-
Every snapshot is a well-shaped chain.

However a snapshot was made, its frames count down to a global one, and no other is global.  It
is there with these frames in all later sessions, and whenever the configuration is known it is
restored as a chain of its depth.
-/
import ScopeChain.Proofs.Session.Accepted
import ScopeChain.Proofs.Session.Kept
import ScopeChain.Proofs.Snapshot.Shape

namespace ScopeChain

/-- Whether a snapshot is a chain: it is as deep as there are frames behind the first, the depths
count down to zero, those frames are global that have no parent, and all metadata keys are
texts. -/
structure Snapshot.WellShaped (s : Snapshot) : Prop where
  count : s.scopeCount = s.first.depth + 1
  depths : s.frames.map Frame.depth = (List.range (s.first.depth + 1)).reverse
  isGlobal : ∀ inner frame outer, s.frames = inner ++ frame :: outer →
    (frame.isGlobal = true ↔ outer = [])
  texts : ∀ frame ∈ s.frames, ∀ e ∈ frame.entries, ∀ m ∈ e.metadata, KeysText m

theorem Snapshot.wellShaped {s : Snapshot} (shaped : Shaped s.frames) (plain : s.Plain) :
    s.WellShaped := by
  have hcount : s.frames.length = s.first.depth + 1 := by
    obtain ⟨hdepth, -, -⟩ := show Shaped (s.first :: s.outer) from shaped
    rw [hdepth]
    rfl
  refine ⟨hcount, hcount ▸ shaped.depths, fun inner frame outer hframes => ?_,
    fun frame hframe e he m hm => (plain frame hframe e he m hm).1⟩
  rw [hframes] at shaped
  exact shaped.isGlobal_iff

namespace Session

variable {s : Session} {id : SnapshotId} {snapshot : Snapshot}

/-! ## All snapshots -/

def AllShaped (s : Session) : Prop := ∀ snapshot ∈ s.snapshots, Snapshot.Shaped snapshot.frames

theorem AllShaped.step (shaped : s.AllShaped) (sited : s.Sited) (op : Op) :
    (s.step op).1.AllShaped := by
  intro snapshot mem
  rcases (effect_step sited op).snapshots snapshot mem with mem | ⟨b, captured⟩ | ⟨fields, checked⟩
  · exact shaped snapshot mem
  · exact (Snapshot.capture_eq_ok.mp captured).2.1
  · exact Snapshot.shaped_of_ofFields shaped checked

theorem Reachable.allShaped (reachable : s.Reachable) : s.AllShaped := by
  have hboth : s.Proper ∧ s.AllShaped := by
    refine Reachable.induction (P := fun s => s.Proper ∧ s.AllShaped)
      (fun sources => ⟨proper_start sources, ?_⟩) (fun s event h => ?_) reachable
    · exact fun snapshot mem => absurd mem (Array.not_mem_empty snapshot)
    · refine ⟨h.1.after event, ?_⟩
      cases event with
      | make c => exact h.2
      | op op => exact h.2.step h.1.sited op
  exact hboth.2

/-! ## Later sessions -/

/-- A snapshot stays where it is, with the frames that it has. -/
theorem snapshots_after (found : s.snapshots[id]? = some snapshot) (event : Event) :
    (s.after event).snapshots[id]? = some snapshot := by
  have hordinary : event.Ordinary → (s.after event).snapshots[id]? = some snapshot :=
    fun ordinary => (keeps_after ordinary).snapshots id snapshot found
  cases event with
  | make c => exact found
  | op op =>
    cases op with
    | scope op => exact hordinary trivial
    | script op => exact hordinary trivial
    | snapshot op => exact hordinary trivial
    | host op =>
      show (s.hostStep op).1.snapshots[id]? = some snapshot
      rcases hostStep_cases s op with ⟨heap, v, heq⟩ | heq
      · rw [heq]
        exact found
      · rw [heq]
        exact found
    | settings op =>
      have hconfigured : ∀ t : Session, t.snapshots = s.snapshots →
          (t.withConfig fun t c => t.answer (.config c)).1.snapshots[id]? = some snapshot := by
        intro t same
        rw [← same] at found
        rcases withConfig_cases t fun t c => t.answer (.config c) with ⟨c, -, h⟩ | ⟨e, -, h⟩
        · rw [h]
          exact found
        · rw [h]
          exact found
      cases op with
      | setVariable name value => exact found
      | setFile file => exact found
      | current => exact hconfigured s rfl
      | reload => exact hconfigured { s with config := none } rfl
      | make arguments =>
        show (s.settingsStep (.make arguments)).1.snapshots[id]? = some snapshot
        rw [settingsStep]
        split
        next => exact found
        next => exact found

theorem snapshots_afterAll (found : s.snapshots[id]? = some snapshot) (later : List Event) :
    (s.afterAll later).snapshots[id]? = some snapshot := by
  induction later generalizing s with
  | nil => exact found
  | cons event rest ih => exact ih (snapshots_after found event)

/-! ## Restoring -/

/-- The chain that is restored is as deep as the snapshot says. -/
theorem restore_depth (shaped : snapshot.WellShaped) (f : Forest) :
    (snapshot.restore f).2.depth (snapshot.restore f).1 = snapshot.first.depth := by
  have hrebuilt := Snapshot.rebuilt_restore f snapshot
  have hlength := congrArg List.length (hrebuilt.chain _ rfl)
  rw [Forest.length_chain, hrebuilt.locals.length_eq] at hlength
  exact Nat.succ.inj (hlength.trans shaped.count)

/-- Every snapshot of a session that can be reached, whatever it was made of, is a well-shaped
chain.  In all later sessions it has the same frames and answers the same number of scopes, and
with a configuration in force it is restored as a chain of the depth that it says. -/
theorem snapshots_wellShaped (reachable : s.Reachable)
    (found : s.snapshots[id]? = some snapshot) (later : List Event) :
    let t := s.afterAll later
    snapshot.WellShaped ∧
    (t.step (.snapshot (.scopeCount id))).2 = .reply (.number (snapshot.first.depth + 1)) ∧
    (t.step (.snapshot (.frames id))).2 = .reply (.frames snapshot.frames) ∧
    ∀ c, t.configuration = .ok c →
      ∃ b, t.Rebuilds (.snapshot (.restore id)) b ∧
        (t.step (.snapshot (.restore id))).1.ask (.depth b) =
          .reply (.number snapshot.first.depth) := by
  have hmem := Array.mem_of_getElem? found
  have hshaped := Snapshot.wellShaped (reachable.allShaped snapshot hmem)
    (reachable.proper.snapshots snapshot hmem)
  intro t
  have hlater : t.snapshots[id]? = some snapshot := snapshots_afterAll found later
  refine ⟨hshaped, ?_, ?_, fun c known => ⟨(snapshot.restore t.forest).1, ⟨.restore id, ?_⟩, ?_⟩⟩
  · show (t.withSnapshot id fun snapshot => t.answer (.number snapshot.scopeCount)).2 = _
    rw [withSnapshot, hlater, ← hshaped.count]
    rfl
  · rw [frames_of_found hlater]
  · rw [restore_of_found known hlater]
    rfl
  · rw [restore_of_found known hlater]
    have hpresent := (Snapshot.rebuilt_restore t.forest snapshot).present
    refine (ask_depth hpresent).trans ?_
    exact congrArg (fun n => Outcome.reply (.number n)) (restore_depth hshaped t.forest)

def constructed : Session := (start ⟨[], none⟩).afterAll [
  .make (.list []),
  .op (.snapshot (.make
    [("depth", .bool false), ("is_global", .text "yes"), ("variables", .container 0)])),
  .op (.snapshot (.make [("depth", .text " 1 "), ("is_global", .int 0), ("parent", .snapshot 0)]))]

/-- The second snapshot stays a chain of two scopes, and is restored as one, after the variables
that the first was made from have changed. -/
theorem constructed_wellShaped :
    ∃ snapshot c, constructed.snapshots[1]? = some snapshot ∧ snapshot.WellShaped ∧
      snapshot.frames.map Frame.depth = [1, 0] ∧
      let t := constructed.afterAll [.op (.host (.append 0 (.int 7))),
        .op (.settings (.setVariable "SCRIPTENV_MAX_SNAPSHOT_DEPTH" (some "1"))),
        .op (.snapshot (.restore 0))]
      t.configuration = .ok c ∧
      (t.step (.snapshot (.scopeCount 1))).2 = .reply (.number 2) ∧
      ∃ b, t.Rebuilds (.snapshot (.restore 1)) b ∧
        (t.step (.snapshot (.restore 1))).1.ask (.depth b) = .reply (.number 1) := by
  have hreachable : constructed.Reachable := ⟨_, _, rfl⟩
  have hfound : constructed.snapshots[1]? =
    some ⟨⟨1, false, []⟩, [⟨0, true, []⟩], some 0⟩ := by rfl
  obtain ⟨hshaped, hcount, -, hrestored⟩ := snapshots_wellShaped hreachable hfound
    [.op (.host (.append 0 (.int 7))),
      .op (.settings (.setVariable "SCRIPTENV_MAX_SNAPSHOT_DEPTH" (some "1"))),
      .op (.snapshot (.restore 0))]
  exact ⟨_, _, hfound, hshaped, rfl, rfl, hcount, hrestored _ rfl⟩

end Session
end ScopeChain
