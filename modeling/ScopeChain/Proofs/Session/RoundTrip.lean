/-
The round trip of a chain through its text.

A text that can be read is read as a chain that denotes what was written.  One that was written of
a steady chain can be read, and the chain that is made of it is written as the same text again.
-/
import ScopeChain.Proofs.Json.ReadBack
import ScopeChain.Proofs.Session.Configured
import ScopeChain.Proofs.Snapshot.Load
import ScopeChain.Proofs.Snapshot.Restore
import ScopeChain.Session.Step

namespace ScopeChain

open Snapshot (Shaped IsCaptured IsWrittenChain levelLimit)

namespace Written

/-- What is written of a chain, if it can be read back: the variables of each scope are sound
and in order, all fit, and no integer is too long. -/
structure Readable (wss : List (List Written)) : Prop where
  some : wss ≠ []
  sound : ∀ ws ∈ wss, ∀ w ∈ ws, w.Sound
  sorted : ∀ ws ∈ wss, ws.Pairwise fun w u => w.name < u.name
  fits : FitsChain levelLimit wss
  short : (chainTree wss).hasLongInteger = false

theorem length_le_of_fits {room : Nat} {wss : List (List Written)} (fits : FitsChain room wss) :
    wss.length ≤ room := by
  induction wss generalizing room with
  | nil => exact Nat.zero_le _
  | cons ws outer ih =>
    cases room with
    | zero => exact fits.elim
    | succ room => exact Nat.succ_le_succ (ih fits.2)

/-- What is written of a chain, if its text is read as a chain: the tree is legible and not too
deep, and the variables of each scope are in order. -/
structure Legible (wss : List (List Written)) : Prop where
  some : wss ≠ []
  few : wss.length ≤ levelLimit
  sorted : ∀ ws ∈ wss, ws.Pairwise fun w u => w.name < u.name
  shallow : (chainTree wss).levels ≤ Json.nestingLimit
  tree : (chainTree wss).Legible

theorem Readable.legible {wss : List (List Written)} (readable : Readable wss) : Legible wss where
  some := readable.some
  few := length_le_of_fits readable.fits
  sorted := readable.sorted
  shallow := by
    have hlevels := levels_chainTree readable.fits
    have hlimit : levelLimit + 4 ≤ Json.nestingLimit := by decide
    omega
  tree :=
    have hexact := exact_chainTree readable.sound
    ⟨hexact.1, hexact.2.imp fun _ => Json.finiteDouble_of_notDouble, readable.short⟩

end Written

theorem Entry.sorted_iff_of_names {es : List Entry} {ws : List Written}
    (names : es.map Entry.name = ws.map Written.name) :
    Entry.Sorted es ↔ ws.Pairwise fun w u => w.name < u.name := by
  rw [Entry.Sorted, ← List.pairwise_map (f := Entry.name) (R := (· < ·)),
    ← List.pairwise_map (f := Written.name) (R := (· < ·)), names]

namespace Session

def DenotesChain (s : Session) (b : ScopeId) (wss : List (List Written)) : Prop :=
  List.Forall₂ (fun c ws => List.Forall₂ (Entry.Denotes s.heap) (s.forest.locals c).entries ws)
    (s.forest.chain b) wss

def SpellsChain (s : Session) (b : ScopeId) (wss : List (List Written)) : Prop :=
  List.Forall₂ (fun c ws => List.Forall₂ (Entry.Spells s.heap) (s.forest.locals c).entries ws)
    (s.forest.chain b) wss

def SteadyChain (s : Session) (b : ScopeId) : Prop :=
  ∀ c ∈ s.forest.chain b, ∀ e ∈ (s.forest.locals c).entries, e.Steady s.heap

/-! ## Writing -/

/-- What is written of a chain, in which configuration and from which snapshot. -/
structure Serializes (s : Session) (b : ScopeId) (c : Config) (snapshot : Snapshot)
    (wss : List (List Written)) : Prop where
  present : b < s.forest.size
  configured : s.configuration = .ok c
  shallow : s.forest.depth b ≤ c.maxSnapshotDepth
  captured : Snapshot.capture s.forest b = .ok snapshot
  written : IsWrittenChain s.heap s.snapshots levelLimit snapshot.frames wss
  short : (Written.chainTree wss).hasLongInteger = false

theorem write_eq_ok {s : Session} {snapshot : Snapshot} (shaped : Shaped snapshot.frames)
    {text : String} :
    s.write snapshot = .ok text ↔
      ∃ wss, IsWrittenChain s.heap s.snapshots levelLimit snapshot.frames wss ∧
        (Written.chainTree wss).hasLongInteger = false ∧
        text = (Written.chainTree wss).render := by
  rw [write, Snapshot.toTree]
  constructor
  · intro h
    split at h
    next => cases h
    next tree htree =>
      obtain ⟨wss, hwss, rfl⟩ := (Snapshot.framesTree_eq_ok shaped).mp htree
      split at h
      next => cases h
      next hshort =>
        cases h
        exact ⟨wss, hwss, Bool.eq_false_iff.mpr hshort, rfl⟩
  · rintro ⟨wss, hwss, hshort, rfl⟩
    rw [(Snapshot.framesTree_eq_ok shaped).mpr ⟨wss, hwss, rfl⟩]
    simp only [hshort]
    rfl

theorem serialize_eq_ok {s : Session} {b : ScopeId} {text : String} :
    (s.step (.snapshot (.serialize b))).2.answer = .ok (.text text) ↔
      ∃ c snapshot wss, s.Serializes b c snapshot wss ∧ text = (Written.chainTree wss).render := by
  show (s.snapshotStep (.serialize b)).2.answer = _ ↔ _
  rw [snapshotStep]
  constructor
  · intro h
    split at h
    next hpresent =>
      rcases withConfig_cases s _ with ⟨c, hc, heq⟩ | ⟨e, -, heq⟩
      · rw [withCapture, heq] at h
        simp only at h
        split at h
        next => cases h
        next hshallow =>
          split at h
          next => cases h
          next snapshot hsnapshot =>
            split at h
            next found hfound =>
              cases h
              obtain ⟨-, hshaped, -⟩ := Snapshot.capture_eq_ok.mp hsnapshot
              obtain ⟨wss, hwss, hshort, rfl⟩ := (write_eq_ok hshaped).mp hfound
              exact ⟨c, snapshot, wss,
                ⟨hpresent, hc, Nat.le_of_not_lt hshallow, hsnapshot, hwss, hshort⟩, rfl⟩
            next => cases h
      · rw [withCapture, heq] at h
        cases h
    next => cases h
  · rintro ⟨c, snapshot, wss, ⟨hpresent, hc, hshallow, hsnapshot, hwss, hshort⟩, rfl⟩
    obtain ⟨-, hshaped, -⟩ := Snapshot.capture_eq_ok.mp hsnapshot
    have hwrite : { s with config := some c }.write snapshot =
        .ok (Written.chainTree wss).render :=
      (write_eq_ok hshaped).mpr ⟨wss, hwss, hshort, rfl⟩
    rw [if_pos hpresent, withCapture, withConfig_of_ok hc]
    simp only [if_neg (Nat.not_lt.mpr hshallow), hsnapshot, hwrite]

theorem steady_of_captureEntry {h : Heap} {e c : Entry} (steady : e.Steady h)
    (captured : Snapshot.captureEntry e = .ok c) : c.Steady h := by
  obtain ⟨-, hvalue, -, hmetadata⟩ := Snapshot.captureEntry_ok captured
  refine ⟨by rw [hvalue]; exact steady.1, fun m hm p hp => ?_⟩
  obtain ⟨n, hn, hfrom⟩ := hmetadata m hm
  obtain ⟨q, hq, hvalue⟩ := hfrom p hp
  rw [← hvalue]
  exact steady.2 n hn q hq

theorem Serializes.some {s : Session} {b : ScopeId} {c : Config} {snapshot : Snapshot}
    {wss : List (List Written)} (serializes : s.Serializes b c snapshot wss) : wss ≠ [] := by
  rintro rfl
  have hlength := Snapshot.length_of_isWrittenChain serializes.written
  cases hlength

theorem Serializes.sorted {s : Session} {b : ScopeId} {c : Config} {snapshot : Snapshot}
    {wss : List (List Written)} (serializes : s.Serializes b c snapshot wss) :
    ∀ ws ∈ wss, ws.Pairwise fun w u => w.name < u.name := by
  obtain ⟨-, -, hall⟩ := Snapshot.capture_eq_ok.mp serializes.captured
  intro ws hws
  obtain ⟨frame, hframe, hnames⟩ :=
    Listwise.exists_left (Snapshot.names_of_isWrittenChain serializes.written) hws
  obtain ⟨scope, -, hcaptured⟩ := Listwise.exists_left hall hframe
  exact (Entry.sorted_iff_of_names hnames).mp
    (Snapshot.sorted_of_captureEntries (s.forest.locals scope).sorted hcaptured)

/-- What is written of a steady chain can be read back. -/
theorem Serializes.readable {s : Session} {b : ScopeId} {c : Config} {snapshot : Snapshot}
    {wss : List (List Written)} (serializes : s.Serializes b c snapshot wss)
    (steady : s.SteadyChain b) :
    Written.Readable wss := by
  obtain ⟨-, hshaped, hall⟩ := Snapshot.capture_eq_ok.mp serializes.captured
  have hsteady : ∀ frame ∈ snapshot.frames, ∀ e ∈ frame.entries, e.Steady s.heap := by
    intro frame hframe d hd
    obtain ⟨scope, hscope, hcaptured⟩ := Listwise.exists_left hall hframe
    obtain ⟨e, he, hed⟩ := Listwise.exists_left (Snapshot.captureEntries_eq_ok.mp hcaptured) hd
    exact steady_of_captureEntry (steady scope hscope e he) hed
  obtain ⟨hsound, hfits⟩ := Snapshot.sound_of_isWrittenChain hsteady serializes.written
  exact ⟨serializes.some, hsound, serializes.sorted, hfits, serializes.short⟩

/-- A chain that spells out what is sound is captured as it is. -/
theorem capture_of_spells {s : Session} {b : ScopeId} {wss : List (List Written)}
    (sound : ∀ ws ∈ wss, ∀ w ∈ ws, w.Sound) (spelled : s.SpellsChain b wss) :
    ∃ snapshot, Snapshot.capture s.forest b = .ok snapshot ∧
      List.Forall₂ (fun frame ws => List.Forall₂ (Entry.Spells s.heap) frame.entries ws)
        snapshot.frames wss := by
  have hplain : ∀ d ∈ s.forest.chain b, ∀ e ∈ (s.forest.locals d).entries, e.Plain := by
    intro d hd e he m hm
    obtain ⟨ws, hws, hall⟩ := Listwise.exists_right spelled hd
    obtain ⟨w, hw, -, -, hmetadata⟩ := Listwise.exists_right hall he
    rw [Option.mem_def.mp hm] at hmetadata
    generalize hms : w.metadata = members at hmetadata
    cases hmetadata with
    | some hspelled =>
      have hexact := (sound ws hws w hw).metadata _ hms
      exact Snapshot.plain_of_denotesMembers hspelled.denotes (Json.every_object.mp hexact.1).1
  obtain ⟨snapshot, hsnapshot, hentries⟩ := Snapshot.capture_of_plain hplain
  refine ⟨snapshot, hsnapshot, ?_⟩
  refine Listwise.comp hentries.flip spelled fun frame _ d _ ws _ hframe hws => ?_
  rw [show frame.entries = _ from hframe]
  exact hws

theorem serialize_of_spells {s : Session} {b : ScopeId} {c : Config} {wss : List (List Written)}
    (present : b < s.forest.size) (configured : s.configuration = .ok c)
    (readable : Written.Readable wss) (shallow : wss.length ≤ c.maxSnapshotDepth + 1)
    (spelled : s.SpellsChain b wss) :
    (s.step (.snapshot (.serialize b))).2.answer =
      .ok (.text (Written.chainTree wss).render) := by
  obtain ⟨snapshot, hsnapshot, hframes⟩ := capture_of_spells readable.sound spelled
  have hdepth : s.forest.depth b ≤ c.maxSnapshotDepth := by
    have hlength := spelled.length_eq
    rw [Forest.length_chain] at hlength
    omega
  exact serialize_eq_ok.mpr ⟨c, snapshot, wss, ⟨present, configured, hdepth, hsnapshot,
    Snapshot.isWrittenChain_of_spells s.snapshots hframes readable.sound readable.fits,
    readable.short⟩, rfl⟩

/-! ## Reading -/

/-- The text of a chain is deserialized as new scopes that denote what is written in it. -/
theorem deserialize_legible {s : Session} {c : Config} {wss : List (List Written)}
    (configured : s.configuration = .ok c) (legible : Written.Legible wss) :
    ∃ b t, s.step (.snapshot (.deserialize (Written.chainTree wss).render)) =
        (t, ⟨.ok (.scope b), [.restored wss.length]⟩) ∧
      b < t.forest.size ∧ t.config = some c ∧ t.DenotesChain b wss := by
  have hdenotes := Heap.denotes_ofJson (Written.chainTree wss) s.heap
  obtain ⟨snapshot, hsnapshot, -, -, hframes⟩ := Snapshot.checkScope_of_denotes s.snapshots
    legible.some (Written.distinct_of_chainTree legible.tree.distinct) legible.few
    (fun id (hid : id ∈ []) => absurd hid List.not_mem_nil) hdenotes
  have hvalue : Snapshot.ofValue (s.heap.ofJson (Written.chainTree wss)).2 s.snapshots
      (s.heap.ofJson (Written.chainTree wss)).1 = .ok snapshot := hsnapshot
  have hread := Json.read_render legible.tree legible.shallow
  have hrebuilt := Snapshot.rebuilt_restore s.forest snapshot
  have hlength : snapshot.frames.length = wss.length := hframes.length_eq
  refine ⟨(snapshot.restore s.forest).1,
    { s with
      heap := (s.heap.ofJson (Written.chainTree wss)).2
      forest := (snapshot.restore s.forest).2
      config := some c }, ?_, ?_, rfl, ?_⟩
  · show s.snapshotStep (.deserialize _) = _
    simp only [snapshotStep, hread, loadFrom, hvalue, current_of_ok configured, rebuild,
      Snapshot.scopeCount, hlength]
  · have hmem : (snapshot.restore s.forest).1 ∈
        Snapshot.newScopes s.forest.size snapshot.frames.length :=
      List.mem_of_mem_head? hrebuilt.first.symm
    show (snapshot.restore s.forest).1 < (snapshot.restore s.forest).2.size
    rw [hrebuilt.size]
    exact (Snapshot.mem_newScopes.mp hmem).2
  · show List.Forall₂ _ ((snapshot.restore s.forest).2.chain _) wss
    rw [hrebuilt.chain _ rfl]
    refine Listwise.comp hrebuilt.locals hframes fun d _ frame _ ws hws hlocals hdenoted => ?_
    have hsorted : Entry.Sorted frame.entries := by
      refine (Entry.sorted_iff_of_names ?_).mpr (legible.sorted ws hws)
      exact Listwise.map_eq hdenoted fun _ _ _ _ hew => hew.1
    show List.Forall₂ _ ((snapshot.restore s.forest).2.locals d).entries ws
    rw [hlocals, Locals.entries_ofEntries hsorted]
    exact hdenoted

/-- The text of a chain that can be read back is deserialized as new scopes that spell it
out. -/
theorem deserialize_readable {s : Session} {c : Config} {wss : List (List Written)}
    (configured : s.configuration = .ok c) (readable : Written.Readable wss) :
    ∃ b t, s.step (.snapshot (.deserialize (Written.chainTree wss).render)) =
        (t, ⟨.ok (.scope b), [.restored wss.length]⟩) ∧
      b < t.forest.size ∧ t.config = some c ∧ t.SpellsChain b wss := by
  obtain ⟨b, t, hstep, hpresent, hkept, hdenoted⟩ := deserialize_legible configured readable.legible
  refine ⟨b, t, hstep, hpresent, hkept, Listwise.imp hdenoted fun d _ ws hws hes => ?_⟩
  exact Listwise.imp hes fun e _ w hw he =>
    he.spells (readable.sound ws hws w hw).value.2 fun ms hms =>
      ((readable.sound ws hws w hw).metadata ms hms).2

/-! ## The round trip -/

/-- The text of a steady chain is read in every session of the same configuration, and the
chain that is made of it has the same text. -/
theorem serialize_deserialize_serialize {s s' : Session} {b : ScopeId} {text : String}
    (steady : s.SteadyChain b)
    (written : (s.step (.snapshot (.serialize b))).2.answer = .ok (.text text))
    (same : s'.configuration = s.configuration) :
    ∃ b', (s'.step (.snapshot (.deserialize text))).2.answer = .ok (.scope b') ∧
      ((s'.step (.snapshot (.deserialize text))).1.step (.snapshot (.serialize b'))).2.answer =
        .ok (.text text) := by
  obtain ⟨c, snapshot, wss, serializes, rfl⟩ := serialize_eq_ok.mp written
  have hreadable := serializes.readable steady
  have hlength : wss.length = (s.forest.chain b).length := by
    obtain ⟨-, -, hall⟩ := Snapshot.capture_eq_ok.mp serializes.captured
    rw [hall.length_eq, Snapshot.length_of_isWrittenChain serializes.written]
  obtain ⟨b', t, hstep, hpresent, hkept, hspelled⟩ :=
    deserialize_readable (same.trans serializes.configured) hreadable
  have hshallow : wss.length ≤ c.maxSnapshotDepth + 1 := by
    have hdepth := serializes.shallow
    rw [hlength, Forest.length_chain]
    omega
  rw [hstep]
  exact ⟨b', rfl, serialize_of_spells hpresent (configuration_of_kept hkept) hreadable hshallow
    hspelled⟩

def sharing : Session :=
  { Session.start ⟨[], none⟩ with
    heap := { cells := #[.tuple [.float .nan, .bytes [104, 105]],
      .dict [(.int 1, .null), (.null, .container 0), (.text "1", .text "\n")]] } }.run [
    .scope (.create none), .scope (.set 0 "x" (.container 0) none),
    .scope (.child 0), .scope (.set 1 "y" (.container 1) none)] |>.1

/-- The tuple is an array, NaN null, and of the keys that became equal the first place and
the last value are kept. -/
theorem serialize_sharing_again :
    ∃ text, text = (Written.chainTree [
        [⟨"y", .object [("1", .text "\n"), ("None", .array [.null, .text "hi"])], none⟩],
        [⟨"x", .array [.null, .text "hi"], none⟩]]).render ∧
      ∃ b', (sharing.step (.snapshot (.deserialize text))).2.answer = .ok (.scope b') ∧
        ((sharing.step (.snapshot (.deserialize text))).1.step
          (.snapshot (.serialize b'))).2.answer = .ok (.text text) := by
  have hsteady : sharing.SteadyChain 1 := by
    have hcells : ∀ c ∈ sharing.heap.cells.toList, ∀ v ∈ c.values, v.Steady := by
      decide +kernel
    have hentries : ∀ c ∈ sharing.forest.chain 1, ∀ e ∈ (sharing.forest.locals c).entries,
        e.value.Steady ∧ e.metadata = none := by
      decide +kernel
    intro c hc e he
    obtain ⟨hvalue, hnone⟩ := hentries c hc e he
    refine ⟨Heap.steady_of_cells hcells hvalue, fun m hm => ?_⟩
    rw [hnone] at hm
    cases hm
  exact ⟨_, rfl, serialize_deserialize_serialize hsteady (by with_unfolding_all rfl) rfl⟩

end Session
end ScopeChain
