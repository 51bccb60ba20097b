/-
Snapshots in canonical form.

The variables of a frame can be in any order, and names can come twice.  Restoring binds them in
their order, and capturing lists what is bound: the names in increasing order, each of them once,
with the last value and with the last metadata that any variable of the name has.  So what is
captured of a restored chain is the same whenever it is restored and captured again, and it is
the snapshot itself if that has its names in increasing order.
-/
import ScopeChain.Proofs.Session.History
import ScopeChain.Proofs.Session.WellShaped

namespace ScopeChain

namespace Entry

def named (name : String) (entries : List Entry) : List Entry :=
  entries.filter fun e => e.name = name

/-- What variables leave of a name: the value of the last of that name, and the metadata of the
last of them that has any. -/
def last (name : String) (entries : List Entry) : Option Entry :=
  (named name entries).getLast?.map fun e =>
    ⟨name, e.value, ((named name entries).filterMap (·.metadata)).getLast?⟩

variable {name : String} {entries : List Entry} {e : Entry}

theorem mem_named : e ∈ named name entries ↔ e ∈ entries ∧ e.name = name := by
  simp [named]

theorem isSome_last : (last name entries).isSome ↔ name ∈ entries.map Entry.name := by
  rw [last, Option.isSome_map, List.getLast?_isSome, ne_eq, named, List.filter_eq_nil_iff]
  simp

theorem metadata_last (h : last name entries = some e) :
    ∀ m ∈ e.metadata, ∃ d ∈ entries, m ∈ d.metadata := by
  intro m hm
  obtain ⟨d, -, rfl⟩ := Option.map_eq_some_iff.mp h
  obtain ⟨c, hc, hcm⟩ := List.mem_filterMap.mp (List.mem_of_getLast? hm)
  exact ⟨c, (mem_named.mp hc).1, hcm⟩

end Entry

theorem Write.remaining_ofEntry (b : ScopeId) (name : String) (entries : List Entry) :
    remaining b name (entries.map (ofEntry b)) = Entry.last name entries := by
  have honly : only b name (entries.map (ofEntry b)) =
      (Entry.named name entries).map (ofEntry b) := by
    rw [only, List.filter_map, Entry.named]
    exact congrArg (List.map _) (List.filter_congr fun e _ =>
      decide_eq_decide.mpr (and_iff_right rfl))
  rw [remaining, honly, List.getLast?_map, Option.map_map, List.filterMap_map]
  rfl

namespace Locals

variable {entries : List Entry} {e : Entry}

theorem find?_ofEntries (name : String) (entries : List Entry) :
    (ofEntries entries).find? name = Entry.last name entries := by
  have hwrites : ofEntries entries = Write.replay 0 (entries.map (Write.ofEntry 0)) .empty := by
    rw [Write.replay, List.foldl_map]
    rfl
  rw [hwrites, Write.find?_replay, Write.remaining_ofEntry]

theorem mem_ofEntries : e ∈ (ofEntries entries).entries ↔ Entry.last e.name entries = some e := by
  rw [mem_entries_iff, find?_ofEntries]

theorem mem_names_ofEntries {name : String} :
    name ∈ (ofEntries entries).entries.map Entry.name ↔ name ∈ entries.map Entry.name := by
  refine Iff.trans ?_ Entry.isSome_last
  rw [← find?_ofEntries, find?, List.find?_isSome]
  simp

theorem plain_ofEntries (plain : ∀ e ∈ entries, e.Plain) :
    ∀ e ∈ (ofEntries entries).entries, e.Plain := by
  intro e he m hm
  obtain ⟨d, hd, hdm⟩ := Entry.metadata_last (mem_ofEntries.mp he) m hm
  exact plain d hd m hdm

end Locals

/-! ## The canonical form -/

def Frame.canonical (frame : Frame) : Frame :=
  { frame with entries := (Locals.ofEntries frame.entries).entries }

/-- Whether a frame is the canonical form of another: it has the same depth and is global if that
is, its names strictly increase and are the names of the other, and each variable has the last
value and the last metadata among those of its name. -/
structure Frame.CanonicalOf (frame origin : Frame) : Prop where
  depth : frame.depth = origin.depth
  isGlobal : frame.isGlobal = origin.isGlobal
  sorted : Entry.Sorted frame.entries
  names : ∀ name, name ∈ frame.entries.map Entry.name ↔ name ∈ origin.entries.map Entry.name
  last : ∀ e ∈ frame.entries, Entry.last e.name origin.entries = some e

theorem Frame.canonicalOf_canonical (frame : Frame) : frame.canonical.CanonicalOf frame where
  depth := rfl
  isGlobal := rfl
  sorted := (Locals.ofEntries frame.entries).sorted
  names _ := Locals.mem_names_ofEntries
  last _ := Locals.mem_ofEntries.mp

theorem Frame.canonical_eq_iff {frame : Frame} :
    frame.canonical = frame ↔ Entry.Sorted frame.entries := by
  constructor
  · intro h
    rw [← h]
    exact (Locals.ofEntries frame.entries).sorted
  · intro sorted
    rw [canonical, Locals.entries_ofEntries sorted]

namespace Snapshot

variable {s : Snapshot}

def canonical (s : Snapshot) : Snapshot := ⟨s.first.canonical, s.outer.map Frame.canonical, none⟩

theorem frames_canonical (s : Snapshot) : s.canonical.frames = s.frames.map Frame.canonical := rfl

theorem canonical_canonical (s : Snapshot) : s.canonical.canonical = s.canonical := by
  have hframe : ∀ frame : Frame, frame.canonical.canonical = frame.canonical := fun frame =>
    Frame.canonical_eq_iff.mpr (frame.canonicalOf_canonical).sorted
  simp only [canonical, List.map_map, Function.comp_def, hframe]

theorem frames_canonical_eq_iff :
    s.canonical.frames = s.frames ↔ ∀ frame ∈ s.frames, Entry.Sorted frame.entries := by
  rw [frames_canonical]
  refine (Eq.congr_right (List.map_id s.frames).symm).trans (List.map_inj_left.trans ?_)
  exact forall₂_congr fun frame _ => Frame.canonical_eq_iff

theorem shaped_canonical {frames : List Frame} (shaped : Shaped frames) :
    Shaped (frames.map Frame.canonical) := by
  induction frames with
  | nil => trivial
  | cons frame outer ih =>
    obtain ⟨hdepth, hglobal, houter⟩ := shaped
    refine ⟨?_, ?_, ih houter⟩
    · rw [List.length_map]
      exact hdepth
    · rw [List.isEmpty_map]
      exact hglobal

theorem plain_canonical (plain : s.Plain) : s.canonical.Plain := by
  intro frame mem
  rw [frames_canonical] at mem
  obtain ⟨origin, horigin, rfl⟩ := List.mem_map.mp mem
  exact Locals.plain_ofEntries (plain origin horigin)

/-- What is captured of a chain that was restored from a snapshot is its canonical form. -/
theorem capture_restore (shaped : Shaped s.frames) (plain : s.Plain) (f : Forest) :
    capture (s.restore f).2 (s.restore f).1 = .ok s.canonical := by
  have hrebuilt := rebuilt_restore f s
  refine capture_eq_ok.mpr ⟨rfl, shaped_canonical shaped, ?_⟩
  rw [hrebuilt.chain _ rfl, frames_canonical, List.forall₂_map_right_iff]
  refine Listwise.imp hrebuilt.locals fun c _ frame mem hlocals => ?_
  rw [IsCaptured, hlocals]
  exact captureEntries_of_plain (Locals.plain_ofEntries (plain frame mem))

end Snapshot

namespace Session

variable {s : Session} {c : Config} {id : SnapshotId} {snapshot : Snapshot}

/-- Whether a session is reached by restoring a snapshot and then capturing the chain that this
gives, which is the snapshot `new` there. -/
def Recaptures (s : Session) (id : SnapshotId) (t : Session) (new : SnapshotId) : Prop :=
  ∃ b, (s.step (.snapshot (.restore id))).2.answer = .ok (.scope b) ∧
    let captured := (s.step (.snapshot (.restore id))).1.step (.snapshot (.capture b))
    captured.2.answer = .ok (.snapshot new) ∧ captured.1 = t

/-- A snapshot that is not too deep is restored and captured again in its canonical form. -/
theorem recaptures_of_found (kept : s.config = some c) (found : s.snapshots[id]? = some snapshot)
    (shaped : Snapshot.Shaped snapshot.frames) (plain : snapshot.Plain)
    (shallow : snapshot.first.depth ≤ c.maxSnapshotDepth) :
    ∃ t, s.Recaptures id t s.snapshots.size ∧ t.config = some c ∧
      t.snapshots = s.snapshots.push snapshot.canonical := by
  have hrestored := restore_of_found (configuration_of_kept kept) found
  have hdepth := restore_depth (Snapshot.wellShaped shaped plain) s.forest
  have hcaptured := capture_of_ok
    (s := (({ s with config := some c } : Session).rebuild snapshot).1)
    (configuration_of_kept rfl) (Snapshot.rebuilt_restore s.forest snapshot).present
    (hdepth.trans_le shallow) (Snapshot.capture_restore shaped plain s.forest)
  refine ⟨_, ⟨(snapshot.restore s.forest).1, ?_, ?_, rfl⟩, ?_⟩
  · rw [hrestored]
    rfl
  · rw [hrestored, hcaptured]
    rfl
  · rw [hrestored, hcaptured]
    exact ⟨rfl, rfl⟩

/-- Every snapshot that is not too deep for the configuration that is kept is restored, and the
chain is captured again.  The frames that this gives are as many, each of them the canonical form
of the frame that it comes from.  Restoring and capturing them gives the same snapshot once more,
and they are the frames of before exactly if these have strictly increasing names. -/
theorem restored_canonical (reachable : s.Reachable) (kept : s.config = some c)
    (found : s.snapshots[id]? = some snapshot)
    (shallow : snapshot.first.depth ≤ c.maxSnapshotDepth) :
    ∃ t new canonical, s.Recaptures id t new ∧ t.snapshots[new]? = some canonical ∧
      List.Forall₂ Frame.CanonicalOf canonical.frames snapshot.frames ∧
      (∃ u again, t.Recaptures new u again ∧ u.snapshots[again]? = some canonical) ∧
      (canonical.frames = snapshot.frames ↔
        ∀ frame ∈ snapshot.frames, Entry.Sorted frame.entries) := by
  have hmem := Array.mem_of_getElem? found
  have hshaped := reachable.allShaped snapshot hmem
  have hplain := reachable.proper.snapshots snapshot hmem
  obtain ⟨t, hrecaptures, hkept, hsnapshots⟩ :=
    recaptures_of_found kept found hshaped hplain shallow
  have hfound : t.snapshots[s.snapshots.size]? = some snapshot.canonical := by
    rw [hsnapshots, Array.getElem?_push_size]
  obtain ⟨u, hagain, -, hsnapshots'⟩ := recaptures_of_found hkept hfound
    (Snapshot.shaped_canonical hshaped) (Snapshot.plain_canonical hplain) shallow
  refine ⟨t, _, snapshot.canonical, hrecaptures, hfound, ?_, ⟨u, _, hagain, ?_⟩,
    Snapshot.frames_canonical_eq_iff⟩
  · rw [Snapshot.frames_canonical, List.forall₂_map_left_iff]
    exact List.forall₂_same.mpr fun frame _ => frame.canonicalOf_canonical
  · rw [hsnapshots', Array.getElem?_push_size, Snapshot.canonical_canonical]

/-- A session with a snapshot of one scope, made from variables that are not in order: the first
and the third have one name, and only the first of them has metadata. -/
def unordered : Session := (start ⟨[], none⟩).afterAll [
  .op (.settings .current),
  .make (.dict [(.text "unit", .text "m")]),
  .make (.dict [(.text "name", .text "y"), (.text "value", .int 1), (.text "meta", .container 0)]),
  .make (.dict [(.text "name", .text "x"), (.text "value", .int 2)]),
  .make (.dict [(.text "name", .text "y"), (.text "value", .int 3)]),
  .make (.list [.container 1, .container 2, .container 3]),
  .op (.snapshot (.make
    [("depth", .int 0), ("is_global", .bool true), ("variables", .container 4)]))]

/-- It is captured again in order, and not as it was.  What is left of the name that comes twice is
the value of the third variable with the metadata of the first. -/
theorem unordered_canonical :
    ∃ snapshot t new canonical, unordered.snapshots[0]? = some snapshot ∧
      unordered.Recaptures 0 t new ∧ t.snapshots[new]? = some canonical ∧
      List.Forall₂ Frame.CanonicalOf canonical.frames snapshot.frames ∧
      canonical.frames ≠ snapshot.frames ∧
      snapshot.frames.map (fun frame => Entry.last "y" frame.entries) =
        [some ⟨"y", .int 3, some [(.text "unit", .text "m")]⟩] := by
  have hreachable : unordered.Reachable := ⟨_, _, rfl⟩
  obtain ⟨c, hkept, hlimit⟩ : ∃ c, unordered.config = some c ∧ 0 ≤ c.maxSnapshotDepth :=
    ⟨_, rfl, Nat.zero_le _⟩
  have hfound : unordered.snapshots[0]? = some ⟨⟨0, true, [
      ⟨"y", .int 1, some [(.text "unit", .text "m")]⟩, ⟨"x", .int 2, none⟩,
      ⟨"y", .int 3, none⟩]⟩, [], none⟩ := by rfl
  obtain ⟨t, new, canonical, hrecaptures, hnew, hforms, -, hordered⟩ :=
    restored_canonical hreachable hkept hfound hlimit
  refine ⟨_, t, new, canonical, hfound, hrecaptures, hnew, hforms, fun h => ?_, by rfl⟩
  have hsorted := hordered.mp h _ List.mem_cons_self
  have hlt : "y" < "x" := (List.pairwise_cons.mp hsorted).1 _ List.mem_cons_self
  exact absurd hlt (by decide)

end Session
end ScopeChain
