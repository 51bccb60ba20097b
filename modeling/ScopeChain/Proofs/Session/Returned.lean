/-
What comes back of a chain that was serialized.

A chain is refused, or its text is read as a chain of as many scopes with the same names in each.
A value comes back as an equal one exactly if it is lossless, and metadata if besides its keys are
texts.  Everything else is changed without an error.
-/
import ScopeChain.Proofs.Session.Sharing
import ScopeChain.Proofs.Session.Strict
import ScopeChain.Proofs.Snapshot.Returned

namespace ScopeChain

open Snapshot (Shaped levelLimit)

namespace Session

variable {s t : Session} {b b' : ScopeId} {c : Config} {snapshot : Snapshot}
  {wss : List (List Written)}

/-- Whether a chain came back as another: with as many scopes, and variable by variable. -/
def Returned (s : Session) (b : ScopeId) (t : Session) (b' : ScopeId) : Prop :=
  List.Forall₂ (fun d d' => List.Forall₂ (Entry.Returned s.heap t.heap)
      (s.forest.locals d).entries (t.forest.locals d').entries)
    (s.forest.chain b) (t.forest.chain b')

theorem Serializes.legible (serializes : s.Serializes b c snapshot wss) :
    Written.Legible wss := by
  have hregular := serializes.regular
  obtain ⟨hlength, hlevels⟩ := Snapshot.levels_of_isWrittenChain serializes.written
  have hlimit : 2 * levelLimit + 2 ≤ Json.nestingLimit := by decide
  exact {
    some := serializes.some
    few := hlevels.length_eq ▸ hlength
    sorted := serializes.sorted
    shallow := Nat.le_trans hregular.shallow hlimit
    tree := ⟨hregular.distinct, hregular.doubles, serializes.short⟩ }

/-- A chain that denotes what was written of another came back as it. -/
theorem Serializes.returned (serializes : s.Serializes b c snapshot wss) (proper : s.Proper)
    (denoted : t.DenotesChain b' wss) : s.Returned b t b' := by
  obtain ⟨-, -, hcaptured⟩ := Snapshot.capture_eq_ok.mp serializes.captured
  obtain ⟨-, hlevels⟩ := Snapshot.levels_of_isWrittenChain serializes.written
  have hwritten : List.Forall₂ (fun d ws => ∃ cs n,
      List.Forall₂ (fun e c => Snapshot.captureEntry e = .ok c) (s.forest.locals d).entries cs ∧
      List.Forall₂ (Snapshot.IsWritten (Snapshot.valueTree s.heap s.snapshots n [])) cs ws)
      (s.forest.chain b) wss :=
    Listwise.comp hcaptured hlevels fun d _ frame _ ws _ hframe ⟨n, hws⟩ =>
      ⟨frame.entries, n, Snapshot.captureEntries_eq_ok.mp hframe, hws⟩
  refine Listwise.comp hwritten denoted.flip fun d _ ws _ d' _ ⟨cs, n, hcs, hws⟩ hes => ?_
  have hback : List.Forall₂ (fun c e' => ∃ w,
      Snapshot.IsWritten (Snapshot.valueTree s.heap s.snapshots n []) c w ∧ e'.Denotes t.heap w)
      cs (t.forest.locals d').entries :=
    Listwise.comp hws (List.Forall₂.flip hes) fun _ _ w _ _ _ hw he' => ⟨w, hw, he'⟩
  refine Listwise.comp hcs hback fun e he c _ e' _ hec ⟨w, hcw, hew⟩ => ?_
  exact Snapshot.returned_of_written proper.heap (proper.scopes d e he) hec hcw hew

/-- A chain has a text, or else an error of serialization is answered, if there is a
configuration. -/
theorem serialize_cases (known : s.configuration = .ok c) (present : b < s.forest.size) :
    (∃ e, (s.step (.snapshot (.serialize b))).2.answer = .error (.snapshot e)) ∨
      ∃ text, (s.step (.snapshot (.serialize b))).2.answer = .ok (.text text) := by
  by_cases shallow : s.forest.depth b ≤ c.maxSnapshotDepth
  · cases captured : Snapshot.capture s.forest b with
    | error faults =>
      refine Or.inl ⟨.uncapturable faults, ?_⟩
      show (s.snapshotStep (.serialize b)).2.answer = _
      rw [snapshotStep, if_pos present, withCapture, withConfig_of_ok known]
      simp only [if_neg (Nat.not_lt.mpr shallow), captured]
      rfl
    | ok snapshot =>
      rw [serialize_of_captured known present shallow captured]
      cases s.write snapshot with
      | error r => exact Or.inl ⟨_, rfl⟩
      | ok text => exact Or.inr ⟨_, rfl⟩
  · refine Or.inl ⟨.tooDeep (s.forest.depth b) c.maxSnapshotDepth, ?_⟩
    show (s.snapshotStep (.serialize b)).2.answer = _
    rw [snapshotStep, if_pos present, withCapture, withConfig_of_ok known]
    simp only [if_pos (Nat.lt_of_not_le shallow)]
    rfl

/-- A chain is refused, with an error of serialization unless there is no configuration, or its
text is read, in every session of the same configuration, as a chain of as many scopes with the
same names in each.  Of these, exactly the lossless values come back as equal ones, and exactly
the metadata with texts for keys and lossless values does. -/
theorem serialize_returned (reachable : s.Reachable) (present : b < s.forest.size) :
    (∃ e, s.configuration = .error e ∧
      (s.step (.snapshot (.serialize b))).2.answer = .error (.settings e)) ∨
    (∃ e, (s.step (.snapshot (.serialize b))).2.answer = .error (.snapshot e)) ∨
    ∃ text, (s.step (.snapshot (.serialize b))).2.answer = .ok (.text text) ∧
      ∀ s' : Session, s'.configuration = s.configuration →
        ∃ t b', s'.step (.snapshot (.deserialize text)) =
            (t, ⟨.ok (.scope b'), [.restored (s.forest.depth b + 1)]⟩) ∧
          s.Returned b t b' := by
  cases hknown : s.configuration with
  | error e =>
    refine Or.inl ⟨e, rfl, ?_⟩
    show (s.snapshotStep (.serialize b)).2.answer = _
    rw [snapshotStep, if_pos present, withCapture, withConfig_of_error hknown]
    rfl
  | ok c =>
    refine Or.inr ((serialize_cases hknown present).imp_right ?_)
    rintro ⟨text, htext⟩
    refine ⟨text, htext, fun s' hsame => ?_⟩
    obtain ⟨d, snapshot, wss, hserializes, rfl⟩ := serialize_eq_ok.mp htext
    obtain ⟨b', t, hstep, -, -, hdenoted⟩ :=
      deserialize_legible hsame hserializes.legible
    refine ⟨t, b', ?_, hserializes.returned reachable.proper hdenoted⟩
    have hlength := (hserializes.returned reachable.proper hdenoted).length_eq
    rw [hstep, ← hdenoted.length_eq, ← hlength, Forest.length_chain]

def measured : Session := (start ⟨[], none⟩).afterAll [
  .make (.list [.float (.finite false 7205759403792794 (-56) (by decide)), .float .nan]),
  .op (.scope (.create none)), .op (.scope (.set 0 "x" (.container 0) none))]

/-- A text is answered for its scope, and the list comes back. -/
theorem measured_returned :
    measured.Reachable ∧ ∃ text t b',
      (measured.step (.snapshot (.serialize 0))).2.answer = .ok (.text text) ∧
      measured.step (.snapshot (.deserialize text)) = (t, ⟨.ok (.scope b'), [.restored 1]⟩) ∧
      measured.Returned 0 t b' := by
  have hreachable : measured.Reachable := ⟨_, _, rfl⟩
  have hanswer : (measured.step (.snapshot (.serialize 0))).2.answer = .ok (.text
      (Written.chainTree [[⟨"x", .array [.float (.finite false 7205759403792794 (-56) (by decide)), .null],
        none⟩]]).render) := by
    with_unfolding_all rfl
  have hdepth : measured.forest.depth 0 = 0 := by decide +kernel
  refine ⟨hreachable, ?_⟩
  rcases serialize_returned hreachable (b := 0) (by decide +kernel) with
    ⟨e, he, -⟩ | ⟨e, he⟩ | ⟨text, htext, hback⟩
  · cases he
  · rw [hanswer] at he
    cases he
  · obtain ⟨t, b', hstep, hreturned⟩ := hback measured rfl
    rw [hdepth] at hstep
    exact ⟨text, t, b', htext, hstep, hreturned⟩

def colliding : Session := (start ⟨[], none⟩).afterAll [
  .make (.dict [(.int 1, .text "a"), (.text "1", .text "b")]),
  .op (.scope (.create none)), .op (.scope (.set 0 "x" (.container 0) none))]

theorem colliding_serializes :
    (colliding.step (.snapshot (.serialize 0))).2.answer =
      .ok (.text (Written.chainTree [[⟨"x", .object [("1", .text "b")], none⟩]]).render) := by
  with_unfolding_all rfl

theorem colliding_reachable : colliding.Reachable := ⟨_, _, rfl⟩

theorem colliding_readable :
    Written.Readable [[⟨"x", .object [("1", .text "b")], none⟩]] where
  some := List.cons_ne_nil _ _
  sound := by
    intro ws hws w hw
    rw [List.mem_singleton.mp hws] at hw
    rw [List.mem_singleton.mp hw]
    refine ⟨Written.exact_object (by simp) fun m hm => ?_, fun _ h => nomatch h⟩
    rw [List.mem_singleton.mp hm]
    exact ⟨trivial, trivial⟩
  sorted := by
    intro ws hws
    rw [List.mem_singleton.mp hws]
    exact List.pairwise_singleton _ _
  fits := by
    show (∀ w ∈ [_], Written.Fits 254 w) ∧ Written.FitsChain 254 []
    refine ⟨fun w hw => ?_, by simp [Written.FitsChain]⟩
    rw [List.mem_singleton.mp hw]
    exact ⟨by decide, fun _ h => nomatch h⟩
  short := by decide

/-- The entry of the integer is gone, and no error was answered. -/
theorem colliding_changed :
    colliding.Reachable ∧ ∃ text t b' id,
      (colliding.step (.snapshot (.serialize 0))).2.answer = .ok (.text text) ∧
      colliding.step (.snapshot (.deserialize text)) = (t, ⟨.ok (.scope b'), [.restored 1]⟩) ∧
      colliding.ask (.localItems 0) = .reply (.items [⟨"x", .container 0, none⟩]) ∧
      colliding.heap.get? 0 = some (.dict [(.int 1, .text "a"), (.text "1", .text "b")]) ∧
      t.ask (.localItems b') = .reply (.items [⟨"x", .container id, none⟩]) ∧
      t.heap.get? id = some (.dict [(.text "1", .text "b")]) ∧
      ¬ colliding.heap.Equal t.heap (.container 0) (.container id) := by
  have hcell : colliding.heap.get? 0 =
      some (.dict [(.int 1, .text "a"), (.text "1", .text "b")]) := rfl
  obtain ⟨b', t, hstep, hpresent, -, hdenoted⟩ :=
    deserialize_legible (s := colliding) rfl colliding_readable.legible
  have hscope : List.Forall₂ (Entry.Denotes t.heap) (t.forest.locals b').entries
      [⟨"x", .object [("1", .text "b")], none⟩] := by
    rw [DenotesChain, Forest.chain_eq] at hdenoted
    exact (List.forall₂_cons.mp hdenoted).1
  obtain ⟨e, rest, ⟨hname, ⟨id, entries, hvalue, hget, hmembers⟩, hmetadata⟩, hrest, hentries⟩ :=
    List.forall₂_cons_right_iff.mp hscope
  cases hrest
  obtain ⟨name, value, metadata⟩ := e
  cases hname
  cases hvalue
  cases hmetadata
  obtain ⟨f, fs, ⟨hkey, htext⟩, hfs, rfl⟩ :=
    List.forall₂_cons_right_iff.mp (Heap.denotesMembers_iff.mp hmembers)
  cases hfs
  obtain ⟨key, held⟩ := f
  cases hkey
  cases htext
  refine ⟨colliding_reachable, _, t, b', id, colliding_serializes, hstep, rfl, hcell, ?_, hget, ?_⟩
  · rw [ask_localItems hpresent, hentries]
  · intro equal
    have hcells : colliding.heap.dict? (.container 0) = _ := Heap.dict?_eq_some.mpr ⟨0, rfl, hcell⟩
    have hback := Heap.dict?_eq_some.mpr ⟨id, rfl, hget⟩
    cases ((Heap.equal_dict_iff hcells hback).mp equal).1

end Session
end ScopeChain
