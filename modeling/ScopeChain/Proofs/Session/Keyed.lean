/-
Which metadata is captured.

A chain that is not too deep is refused exactly if a key of its metadata spells no text, and each
finding is about such a key.  Otherwise it is captured, and what is restored answers the metadata
of the chain with the texts that its keys spell.  That is the metadata itself where the keys are
texts, and only there: bytes that spell a text are not refused, and come back as the text.
-/
import ScopeChain.Proofs.Session.Isolated
import ScopeChain.Proofs.Snapshot.Texted

namespace ScopeChain

/-- Whether metadata on the chain of a scope has the key `k`. -/
def Forest.HasKey (f : Forest) (b : ScopeId) (k : Key) : Prop :=
  ∃ d ∈ f.chain b, ∃ e ∈ (f.locals d).entries, ∃ m ∈ e.metadata, ∃ v, (k, v) ∈ m

theorem Forest.exists_of_metadata {f : Forest} {b : ScopeId} {name : String} {m : Metadata}
    (found : f.metadata b name = some m) :
    ∃ d ∈ f.chain b, ∃ e ∈ (f.locals d).entries, e.metadata = some m := by
  obtain ⟨d, hd, hm⟩ := List.exists_of_findSome?_eq_some found
  obtain ⟨value, he⟩ := Locals.mem_entries_of_metadata? hm
  exact ⟨d, hd, _, he, rfl⟩

namespace Session

variable {s t : Session} {c : Config} {b b' : ScopeId}

/-! ## Refusals -/

/-- A chain that can be captured has no key that spells no text. -/
theorem spelled_of_capture {snapshot : Snapshot}
    (captured : Snapshot.capture s.forest b = .ok snapshot) {k : Key}
    (has : s.forest.HasKey b k) : k.text? ≠ none := by
  obtain ⟨d, hd, e, he, m, hm, v, hk⟩ := has
  obtain ⟨-, -, hall⟩ := Snapshot.capture_eq_ok.mp captured
  obtain ⟨frame, -, hframe⟩ := Listwise.exists_right hall hd
  obtain ⟨text, htext⟩ := (Snapshot.captureEntries_eq_map hframe).1 e he m hm _ hk
  rw [Coerce.keyText_eq_ok.mp htext]
  exact Option.some_ne_none text

/-- A chain that can not be captured has findings, each about a key that spells no text. -/
theorem unspelled_of_capture {faults : List Fault}
    (refused : Snapshot.capture s.forest b = .error faults) :
    faults ≠ [] ∧ ∀ fault ∈ faults, ∃ k, s.forest.HasKey b k ∧ k.text? = none ∧
      fault.place = [.field "meta", .key k] := by
  obtain ⟨d, hd, e, he, hentry⟩ := Snapshot.capture_eq_error refused
  obtain ⟨hne, hblames⟩ := Snapshot.blames_of_captureEntry hentry
  refine ⟨hne, fun fault hfault => ?_⟩
  obtain ⟨m, hm, p, hp, hnone, hplace⟩ := hblames fault hfault
  exact ⟨p.1, ⟨d, hd, e, he, m, hm, p.2, hp⟩, hnone, hplace⟩

/-! ## Restored metadata -/

theorem Copied.metadata? {d d' : ScopeId} (copied : s.Copied d t d')
    (present : d' < t.forest.size) (name : String) :
    (t.forest.locals d').metadata? name =
      ((s.forest.locals d).metadata? name).map .withTexts := by
  obtain ⟨items, hcaptured, hitems, -⟩ := copied
  rw [ask_localItems present] at hitems
  cases hitems
  exact Snapshot.metadata?_of_captured hcaptured name

theorem metadata_of_copied
    (copied : List.Forall₂ (fun d d' => s.Copied d t d') (s.forest.chain b) (t.forest.chain b'))
    (present : b' < t.forest.size) (name : String) :
    t.forest.metadata b' name = (s.forest.metadata b name).map .withTexts := by
  have hscopes : (s.forest.chain b).map
        (fun d => ((s.forest.locals d).metadata? name).map Metadata.withTexts) =
      (t.forest.chain b').map fun d' => (t.forest.locals d').metadata? name :=
    Listwise.map_eq copied fun d _ d' hd' hcopied => (hcopied.metadata?
      (Nat.lt_of_le_of_lt (Forest.le_of_mem_chain hd') present) name).symm
  have hsearch := congrArg (List.findSome? id) hscopes
  rw [List.findSome?_map, List.findSome?_map] at hsearch
  rw [Forest.metadata, Forest.metadata, List.map_findSome?]
  exact hsearch.symm

/-- Whenever a snapshot of a chain is restored, the new chain answers the metadata of the old one
with texts for keys. -/
theorem restore_answers (proper : s.Proper) (present : b < s.forest.size) {snapshot : Snapshot}
    (captured : Snapshot.capture s.forest b = .ok snapshot) {id : SnapshotId}
    (known : t.configuration = .ok c) (found : t.snapshots[id]? = some snapshot) :
    ∃ b', t.Rebuilds (.snapshot (.restore id)) b' ∧ ∀ name,
      let restored := (t.step (.snapshot (.restore id))).1.ask (.metadata b' name)
      restored = (match s.forest.metadata b name with
        | some m => .reply (.metadata m.withTexts)
        | none => .fail (.unknownVariable name)) ∧
      (restored = s.ask (.metadata b name) ↔ ∀ m ∈ s.forest.metadata b name, KeysText m) := by
  obtain ⟨b', hrebuilds, hcopied⟩ := restore_copies proper present captured known found
  have hpresent := (hrebuilds.new (Forest.mem_chain_self ..)).2
  refine ⟨b', hrebuilds, fun name => ?_⟩
  intro restored
  have hrestored : restored = _ := ask_metadata hpresent name
  rw [hrestored, ask_metadata present, metadata_of_copied hcopied hpresent]
  cases hm : s.forest.metadata b name with
  | none => exact ⟨rfl, iff_of_true rfl fun m hm => absurd hm (Option.not_mem_none m)⟩
  | some m =>
    obtain ⟨d, -, e, he, hmetadata⟩ := Forest.exists_of_metadata hm
    refine ⟨rfl, ?_⟩
    rw [show (∀ n ∈ some m, KeysText n) ↔ KeysText m by simp,
      ← Snapshot.withTexts_eq_self (proper.scopes d e he m hmetadata)]
    simp [Outcome.reply]

/-- With a configuration that is kept, a chain that is not too deep is refused exactly if its
metadata has a key that spells no text.  Nothing changes then, and there are findings, each of
which is about such a key.  Otherwise the chain is captured and can be restored, and the restored
chain answers the metadata of the chain with the texts that its keys spell.  This is the answer
of the chain itself exactly if the keys are texts. -/
theorem capture_keys (reachable : s.Reachable) (kept : s.config = some c)
    (present : b < s.forest.size) (shallow : s.forest.depth b ≤ c.maxSnapshotDepth) :
    let r := s.step (.snapshot (.capture b))
    ((∃ e, r.2.answer = .error e) ↔ ∃ k, s.forest.HasKey b k ∧ k.text? = none) ∧
    (∀ e, r.2.answer = .error e → r.1 = s ∧
      ∃ faults, e = .snapshot (.uncapturable faults) ∧ faults ≠ [] ∧
        ∀ fault ∈ faults, ∃ k, s.forest.HasKey b k ∧ k.text? = none ∧
          fault.place = [.field "meta", .key k]) ∧
    ((∀ k, s.forest.HasKey b k → k.text? ≠ none) → ∃ id b',
      r.2.answer = .ok (.snapshot id) ∧ r.1.Rebuilds (.snapshot (.restore id)) b' ∧
      ∀ name,
        let restored := (r.1.step (.snapshot (.restore id))).1.ask (.metadata b' name)
        restored = (match s.forest.metadata b name with
          | some m => .reply (.metadata m.withTexts)
          | none => .fail (.unknownVariable name)) ∧
        (restored = s.ask (.metadata b name) ↔
          ∀ m ∈ s.forest.metadata b name, KeysText m)) := by
  have hknown := configuration_of_kept kept
  intro r
  cases hcapture : Snapshot.capture s.forest b with
  | error faults =>
    obtain ⟨hne, hkeys⟩ := unspelled_of_capture hcapture
    obtain ⟨k, hk, hnone, -⟩ := hkeys _ (List.head_mem hne)
    have hself : ({ s with config := some c } : Session) = s := by rw [← kept]
    rw [show r = _ from capture_of_error hknown present shallow hcapture, hself]
    refine ⟨⟨fun _ => ⟨k, hk, hnone⟩, fun _ => ⟨_, rfl⟩⟩, ?_, fun spelled =>
      absurd hnone (spelled k hk)⟩
    rintro e ⟨⟩
    exact ⟨rfl, faults, rfl, hne, hkeys⟩
  | ok snapshot =>
    rw [show r = _ from capture_of_ok hknown present shallow hcapture]
    refine ⟨⟨?_, ?_⟩, ?_, fun _ => ?_⟩
    · rintro ⟨e, ⟨⟩⟩
    · rintro ⟨k, hk, hnone⟩
      exact absurd hnone (spelled_of_capture hcapture hk)
    · rintro e ⟨⟩
    · obtain ⟨b', hrebuilds, hanswers⟩ := restore_answers
        (t := { s with config := some c, snapshots := s.snapshots.push snapshot })
        reachable.proper present hcapture rfl Array.getElem?_push_size
      exact ⟨_, b', rfl, hrebuilds, hanswers⟩

def mixedKeys : Session := (start ⟨[], none⟩).afterAll [
  .op (.scope (.create none)),
  .op (.scope (.set 0 "x" .null (some [(.bytes [0x6b], .int 1), (.text "k", .int 2)]))),
  .op (.scope (.child 0)), .op (.scope (.set 1 "x" .null (some [(.int 1, .null)])))]

/-- The global scope is captured, and the inner one is not. -/
theorem mixedKeys_capture :
    (∃ e, (mixedKeys.step (.snapshot (.capture 1))).2.answer = .error e) ∧
      ∃ id b', (mixedKeys.step (.snapshot (.capture 0))).2.answer = .ok (.snapshot id) ∧
        ((mixedKeys.step (.snapshot (.capture 0))).1.step (.snapshot (.restore id))).1.ask
          (.metadata b' "x") = .reply (.metadata [(.text "k", .int 2)]) := by
  have hreachable : mixedKeys.Reachable := ⟨_, _, rfl⟩
  have hkept : mixedKeys.config = some ⟨"self", "context", true, 256⟩ := by rfl
  have houter : mixedKeys.forest.chain 0 = [0] := by decide +kernel
  have hinner : mixedKeys.forest.chain 1 = [1, 0] := by decide +kernel
  obtain ⟨hrefused, -⟩ := capture_keys hreachable hkept (b := 1) (by decide) (by decide +kernel)
  obtain ⟨-, -, hcaptured⟩ :=
    capture_keys hreachable hkept (b := 0) (by decide) (by decide +kernel)
  refine ⟨hrefused.mpr ⟨.int 1, ?_, rfl⟩, ?_⟩
  · rw [Forest.HasKey, hinner]
    exact ⟨1, List.mem_cons_self, ⟨"x", .null, some [(.int 1, .null)]⟩, List.mem_cons_self, _, rfl,
      .null, List.mem_cons_self⟩
  · have hspelled : ∀ k, mixedKeys.forest.HasKey 0 k → k.text? ≠ none := by
      rintro k ⟨d, hd, e, he, m, hm, v, hk⟩
      rw [houter, List.mem_singleton] at hd
      subst hd
      obtain rfl : e = ⟨"x", .null, some [(.bytes [0x6b], .int 1), (.text "k", .int 2)]⟩ :=
        List.mem_singleton.mp he
      cases hm
      rcases List.mem_pair.mp hk with hk | hk <;> cases hk <;> decide
    obtain ⟨id, b', hanswer, -, hanswers⟩ := hcaptured hspelled
    refine ⟨id, b', hanswer, (hanswers "x").1.trans ?_⟩
    rw [Forest.metadata, houter]
    rfl

/-- Bytes for a key are no text and are not refused, and the metadata that is restored is not that
of the chain. -/
theorem mixedKeys_not_refused :
    let r := mixedKeys.step (.snapshot (.capture 0))
    mixedKeys.forest.HasKey 0 (.bytes [0x6b]) ∧ r.2.answer = .ok (.snapshot 0) ∧
      ∃ b', r.1.Rebuilds (.snapshot (.restore 0)) b' ∧
        (r.1.step (.snapshot (.restore 0))).1.ask (.metadata b' "x") ≠
          mixedKeys.ask (.metadata 0 "x") := by
  have houter : mixedKeys.forest.chain 0 = [0] := by decide +kernel
  have hmetadata : mixedKeys.forest.metadata 0 "x" =
      some [(.bytes [0x6b], .int 1), (.text "k", .int 2)] := by
    rw [Forest.metadata, houter]
    rfl
  have hcapture : Snapshot.capture mixedKeys.forest 0 =
      .ok ⟨⟨0, true, [⟨"x", .null, some [(.text "k", .int 2)]⟩]⟩, [], none⟩ := by
    refine Snapshot.capture_eq_ok.mpr ⟨rfl, ⟨rfl, rfl, trivial⟩, ?_⟩
    rw [houter]
    exact .cons rfl .nil
  have hstep := capture_of_ok (s := mixedKeys) rfl (by decide) (by decide +kernel) hcapture
  intro r
  rw [show r = _ from hstep]
  refine ⟨?_, rfl, ?_⟩
  · rw [Forest.HasKey, houter]
    exact ⟨0, List.mem_cons_self, _, List.mem_cons_self, _, rfl, .int 1, List.mem_cons_self⟩
  · have hproper : mixedKeys.Proper := Reachable.proper ⟨_, _, rfl⟩
    obtain ⟨b', hrebuilds, hanswers⟩ := restore_answers hproper (by decide) hcapture
      (t := { mixedKeys with config := some _, snapshots := mixedKeys.snapshots.push _ }) rfl
      Array.getElem?_push_size
    refine ⟨b', hrebuilds, fun same => ?_⟩
    obtain ⟨k, hk⟩ := (hanswers "x").2.mp same _ hmetadata _ List.mem_cons_self
    cases hk

end Session
end ScopeChain
