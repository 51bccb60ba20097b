/-
Shared and circular containers in a chain that is serialized.

However containers are linked, a chain is serialized or refused.  It is refused if a container
that it holds is inside itself.  If scopes, variables and containers nest within the levels that
there are, it is serialized, and a container that is held in many places is written in each of
them as a copy of its own would be.
-/
import ScopeChain.Proofs.Session.Built
import ScopeChain.Proofs.Session.Isolated
import ScopeChain.Proofs.Session.RoundTrip
import ScopeChain.Proofs.Snapshot.Cycles
import ScopeChain.Proofs.Snapshot.Nested

namespace ScopeChain

open Heap (Piecewise)
open Snapshot (levelLimit)

namespace Session

variable {s t : Session} {b b' : ScopeId} {c : Config} {ids : List ContainerId}

/-! ## The variables of a chain -/

def Bears (s : Session) (b : ScopeId) (v : Value) : Prop :=
  ∃ es ∈ s.bindings b, ∃ e ∈ es, v ∈ e.values

/-- Whether a chain holds a container that is inside itself. -/
def Circular (s : Session) (b : ScopeId) : Prop :=
  ∃ v, s.Bears b v ∧ ∃ id, s.heap.Holds v (.container id) ∧ s.heap.Cyclic id

/-- Whether a chain of `t` has the variables of one of `s` with copies of their values.  The
containers of the copies are listed, as often as they occur. -/
def CopiesChain (s : Session) (b : ScopeId) (t : Session) (b' : ScopeId)
    (ids : List ContainerId) : Prop :=
  Piecewise (Piecewise (Entry.Copy s.heap t.heap)) (s.bindings b) (t.bindings b') ids

/-- Whether the variables of a chain spell out what is written of it, in which tuples are lists. -/
def SpellsListed (s : Session) (b : ScopeId) (wss : List (List Written)) : Prop :=
  List.Forall₂ (List.Forall₂ (Entry.Spells s.heap.listed)) (s.bindings b) wss

theorem length_bindings (s : Session) (b : ScopeId) :
    (s.bindings b).length = s.forest.depth b + 1 := by
  rw [bindings, List.length_map, Forest.length_chain]

theorem bindings_ne_nil (s : Session) (b : ScopeId) : s.bindings b ≠ [] := by
  intro heq
  have hlength := s.length_bindings b
  rw [heq] at hlength
  cases hlength

theorem plain_bindings (proper : s.Proper)
    (texts : ∀ d ∈ s.forest.chain b, (s.forest.locals d).TextKeyed) :
    ∀ es ∈ s.bindings b, ∀ e ∈ es, e.Plain := by
  intro es hes e he m hm
  obtain ⟨d, hd, rfl⟩ := List.mem_map.mp hes
  exact ⟨texts d hd e he m hm, proper.scopes d e he m hm⟩

theorem sorted_bindings : ∀ es ∈ s.bindings b, Entry.Sorted es := by
  intro es hes
  obtain ⟨d, -, rfl⟩ := List.mem_map.mp hes
  exact (s.forest.locals d).sorted

theorem capture_bindings (proper : s.Proper)
    (texts : ∀ d ∈ s.forest.chain b, (s.forest.locals d).TextKeyed) :
    ∃ snapshot, Snapshot.capture s.forest b = .ok snapshot ∧
      snapshot.frames.map Frame.entries = s.bindings b := by
  obtain ⟨snapshot, hsnapshot, hentries⟩ := Snapshot.capture_of_plain fun d hd e he =>
    plain_bindings proper texts _ (List.mem_map_of_mem hd) e he
  refine ⟨snapshot, hsnapshot, ?_⟩
  exact (Listwise.map_eq hentries fun _ _ _ _ h => h.symm).symm

/-! ## Serializing -/

theorem serialize_of_captured (known : s.configuration = .ok c) (present : b < s.forest.size)
    (shallow : s.forest.depth b ≤ c.maxSnapshotDepth) {snapshot : Snapshot}
    (captured : Snapshot.capture s.forest b = .ok snapshot) :
    (s.step (.snapshot (.serialize b))).2.answer =
      match s.write snapshot with
      | .ok text => .ok (.text text)
      | .error r => .error (.snapshot (.unwritable r)) := by
  have hwrite : ({ s with config := some c } : Session).write snapshot = s.write snapshot := rfl
  show (s.snapshotStep (.serialize b)).2.answer = _
  rw [snapshotStep, if_pos present, withCapture, withConfig_of_ok known]
  simp only [if_neg (Nat.not_lt.mpr shallow), captured, hwrite]
  cases s.write snapshot with
  | ok text => rfl
  | error r => rfl

section Circular

variable {snapshot : Snapshot} (entries_eq : snapshot.frames.map Frame.entries = s.bindings b)

include entries_eq

theorem not_circular_of_write (captured : Snapshot.capture s.forest b = .ok snapshot)
    {text : String} (written : s.write snapshot = .ok text) : ¬ s.Circular b := by
  rintro ⟨v, ⟨es, hes, e, he, hv⟩, id, hheld, hcyclic⟩
  obtain ⟨-, hshaped, -⟩ := Snapshot.capture_eq_ok.mp captured
  obtain ⟨wss, hwss, -⟩ := (write_eq_ok hshaped).mp written
  obtain ⟨frame, hframe, rfl⟩ := List.mem_map.mp (entries_eq ▸ hes)
  exact Snapshot.not_cyclic_of_isWrittenChain hwss hframe he hv hheld hcyclic

theorem circular_of_write (plain : ∀ v, s.Bears b v → ∀ id, ¬ s.heap.Holds v (.snapshot id))
    (refused : s.write snapshot = .error .cyclic) : s.Circular b := by
  have hborne : ∀ frame ∈ snapshot.frames, ∀ e ∈ frame.entries, ∀ v ∈ e.values, s.Bears b v :=
    fun frame hframe e he v hv =>
      ⟨frame.entries, entries_eq ▸ List.mem_map_of_mem hframe, e, he, hv⟩
  have htree : snapshot.toTree s.heap s.snapshots = .error .cyclic := by
    rw [write] at refused
    split at refused
    next r hr =>
      cases refused
      exact hr
    next => split at refused <;> cases refused
  obtain ⟨frame, hframe, e, he, v, hv, hcyclic⟩ := Snapshot.cyclic_of_framesTree
    (fun frame hframe e he v hv => plain v (hborne frame hframe e he v hv)) htree
  exact ⟨v, hborne frame hframe e he v hv, hcyclic⟩

end Circular

/-- In a chain that nests nothing is inside itself. -/
theorem not_circular_of_nests {room : Nat} (nests : s.heap.NestsChain room (s.bindings b)) :
    ¬ s.Circular b := by
  rintro ⟨v, ⟨es, hes, e, he, hv⟩, id, hheld, hcyclic⟩
  obtain ⟨n, hn⟩ := nests.nests hes he hv
  obtain ⟨m, -, hm⟩ := hn.of_holds hheld
  exact hm.not_cyclic hcyclic

/-! ## What is spelled out -/

theorem write_listed (s : Session) (snapshot : Snapshot) :
    ({ s with heap := s.heap.listed } : Session).write snapshot = s.write snapshot := by
  simp only [write, Snapshot.toTree, (Snapshot.valueTree_listed _ _ _).2]

/-- A chain that spells out what can be read back, but for tuples, is serialized so. -/
theorem serialize_of_bindings {wss : List (List Written)} (present : b < s.forest.size)
    (known : s.configuration = .ok c) (readable : Written.Readable wss)
    (shallow : wss.length ≤ c.maxSnapshotDepth + 1) (spelled : s.SpellsListed b wss) :
    (s.step (.snapshot (.serialize b))).2.answer =
      .ok (.text (Written.chainTree wss).render) := by
  have hspelled : ({ s with heap := s.heap.listed } : Session).SpellsChain b wss :=
    List.forall₂_map_left_iff.mp spelled
  have hknown : ({ s with heap := s.heap.listed } : Session).configuration = .ok c :=
    Eq.trans (configuration_congr (s := s) rfl rfl) known
  have hanswer := serialize_of_spells (s := { s with heap := s.heap.listed }) present hknown
    readable shallow hspelled
  obtain ⟨snapshot, hsnapshot, -⟩ := capture_of_spells readable.sound hspelled
  have hdepth : s.forest.depth b ≤ c.maxSnapshotDepth := by
    have hlength := spelled.length_eq
    rw [length_bindings] at hlength
    omega
  rw [serialize_of_captured known present hdepth hsnapshot, ← write_listed]
  rw [serialize_of_captured (s := { s with heap := s.heap.listed }) hknown present hdepth
    hsnapshot] at hanswer
  exact hanswer

theorem exists_readable (proper : s.Proper)
    (texts : ∀ d ∈ s.forest.chain b, (s.forest.locals d).TextKeyed)
    (nests : s.heap.NestsChain levelLimit (s.bindings b))
    (writable : ∀ v, s.Bears b v → ∀ w, s.heap.Holds v w → s.heap.Writable w) :
    ∃ wss, Written.Readable wss ∧ s.SpellsListed b wss := by
  obtain ⟨wss, hspelled, hsound, hfits⟩ := exists_written_chain proper.heap
    (plain_bindings proper texts) nests fun es hes e he v hv => writable v ⟨es, hes, e, he, hv⟩
  have hsome : wss ≠ [] := by
    rintro rfl
    exact s.bindings_ne_nil b (List.forall₂_nil_right_iff.mp hspelled)
  have hsorted : ∀ ws ∈ wss, ws.Pairwise fun w u => w.name < u.name := by
    intro ws hws
    obtain ⟨es, hes, hall⟩ := Listwise.exists_left hspelled hws
    exact (Entry.sorted_iff_of_names (Listwise.map_eq hall fun _ _ _ _ h => h.1)).mp
      (sorted_bindings es hes)
  exact ⟨wss, ⟨hsome, fun ws hws w hw => (hsound ws hws w hw).1, hsorted, hfits,
    Written.short_chainTree (fun ws hws w hw => (hsound ws hws w hw).2)
      (Written.length_le_of_fits hfits)⟩, hspelled⟩

/-! ## Copies of chains -/

/-- A chain of copies spells out what the chain does. -/
theorem CopiesChain.spells {wss : List (List Written)} (copies : s.CopiesChain b t b' ids)
    (spelled : s.SpellsListed b wss) : t.SpellsListed b' wss := by
  refine Listwise.comp copies.forall₂.flip spelled fun es' _ es _ ws _ hcopies hspelled => ?_
  obtain ⟨ids', hcopies⟩ := hcopies
  refine Listwise.comp hcopies.forall₂.flip hspelled fun e' _ e _ w _ hcopy hspell => ?_
  obtain ⟨ids'', hcopy⟩ := hcopy
  exact hcopy.spells hspell

/-- A host can build a chain of copies, if the values nest.  All containers of the copies are new,
and none is held twice. -/
theorem exists_copiesChain (proper : s.Proper) (known : s.configuration = .ok c)
    (nests : ∀ es ∈ s.bindings b, ∀ e ∈ es, ∀ v ∈ e.values, ∃ n, s.heap.Nests n v) :
    ∃ events b' ids, (s.afterAll events).configuration = .ok c ∧
      b' < (s.afterAll events).forest.size ∧ s.CopiesChain b (s.afterAll events) b' ids ∧
      ids.Nodup ∧ ∀ id ∈ ids, s.heap.cells.size ≤ id := by
  have heach : ∀ es ∈ s.bindings b, ∀ h : Heap, ∃ es' h' ids, h.Fresh h' ids ∧
      Piecewise (Entry.Copy s.heap h') es es' ids := fun es hes =>
    Heap.exists_piecewise (Entry.Copy s.heap) (fun within copy => copy.mono within)
      fun e he => Entry.exists_copy proper.heap (nests es hes e he)
  obtain ⟨ess, h, ids, hfresh, hcopies⟩ := Heap.exists_piecewise
    (fun h' => Piecewise (Entry.Copy s.heap h'))
    (fun within all => all.imp fun copy => copy.mono within) heach s.heap
  have hcopied := hcopies.forall₂
  have hsome : ess ≠ [] := by
    rintro rfl
    exact s.bindings_ne_nil b (List.forall₂_nil_right_iff.mp hcopied)
  have hsorted : ∀ es' ∈ ess, Entry.Sorted es' := by
    intro es' hes'
    obtain ⟨es, hes, ids', hall⟩ := Listwise.exists_left hcopied hes'
    refine Entry.Sorted.of_names ?_ (sorted_bindings es hes)
    exact Listwise.map_eq hall.forall₂ fun _ _ _ _ ⟨_, copy⟩ => copy.name.symm
  have hdistinct : ∀ es' ∈ ess, ∀ e' ∈ es', e'.Distinct := by
    intro es' hes' e' he'
    obtain ⟨es, hes, ids', hall⟩ := Listwise.exists_left hcopied hes'
    obtain ⟨e, he, ids'', hcopy⟩ := Listwise.exists_left hall.forall₂ he'
    obtain ⟨d, -, rfl⟩ := List.mem_map.mp hes
    exact hcopy.distinct (proper.scopes d e he)
  have hmake := Builds.of_fresh known hfresh
  obtain ⟨f, t, b', hbuilds, hpresent, hbindings⟩ :=
    exists_chain hmake.known hsome hsorted hdistinct
  obtain ⟨events, rfl⟩ := (hmake.trans hbuilds).reached
  refine ⟨events, b', ids, hbuilds.known, hpresent, ?_, hfresh.nodup,
    fun id hid => (hfresh.new id hid).1⟩
  rw [CopiesChain, hbindings]
  exact hcopies.imp fun all => all.imp fun copy => copy.mono hbuilds.within

/-- However the containers of a chain are linked, it is serialized or refused.  It is refused if it
holds a container that is inside itself, and as circular, if it holds no snapshots, only then.

If its scopes, variables and containers nest within the levels that there are, nothing is inside
itself, and if it holds only what JSON has, it is serialized as what its variables spell out,
however often a container is held.  Every chain of copies has the same text, and a host can build
one for which each container was made anew wherever it is held. -/
theorem serialize_linked (reachable : s.Reachable) (present : b < s.forest.size)
    (known : s.configuration = .ok c) (shallow : s.forest.depth b ≤ c.maxSnapshotDepth)
    (texts : ∀ d ∈ s.forest.chain b, (s.forest.locals d).TextKeyed) :
    ((∃ text, (s.step (.snapshot (.serialize b))).2.answer = .ok (.text text)) ∨
      ∃ r, (s.step (.snapshot (.serialize b))).2.answer = .error (.snapshot (.unwritable r))) ∧
    (s.Circular b →
      ∃ r, (s.step (.snapshot (.serialize b))).2.answer = .error (.snapshot (.unwritable r))) ∧
    ((∀ v, s.Bears b v → ∀ id, ¬ s.heap.Holds v (.snapshot id)) →
      (s.step (.snapshot (.serialize b))).2.answer = .error (.snapshot (.unwritable .cyclic)) →
      s.Circular b) ∧
    (s.heap.NestsChain levelLimit (s.bindings b) →
      (∀ v, s.Bears b v → ∀ w, s.heap.Holds v w → s.heap.Writable w) →
      ¬ s.Circular b ∧
      ∃ wss, s.SpellsListed b wss ∧
        let text := (Written.chainTree wss).render
        (s.step (.snapshot (.serialize b))).2.answer = .ok (.text text) ∧
        (∀ t b' ids, t.configuration = .ok c → b' < t.forest.size → s.CopiesChain b t b' ids →
          (t.step (.snapshot (.serialize b'))).2.answer = .ok (.text text)) ∧
        ∃ events b' ids, (s.afterAll events).configuration = .ok c ∧
          b' < (s.afterAll events).forest.size ∧ s.CopiesChain b (s.afterAll events) b' ids ∧
          ids.Nodup ∧ ∀ id ∈ ids, s.heap.cells.size ≤ id) := by
  have hproper := reachable.proper
  obtain ⟨snapshot, hcaptured, hbindings⟩ := capture_bindings hproper texts
  rw [serialize_of_captured known present shallow hcaptured]
  refine ⟨?_, fun circular => ?_, fun plain refused => ?_, fun nests writable => ?_⟩
  · cases s.write snapshot with
    | ok text => exact Or.inl ⟨text, rfl⟩
    | error r => exact Or.inr ⟨r, rfl⟩
  · cases hwrite : s.write snapshot with
    | ok text => exact absurd circular (not_circular_of_write hbindings hcaptured hwrite)
    | error r => exact ⟨r, rfl⟩
  · cases hwrite : s.write snapshot with
    | ok text =>
      rw [hwrite] at refused
      cases refused
    | error r =>
      rw [hwrite] at refused
      cases refused
      exact circular_of_write hbindings plain hwrite
  · obtain ⟨wss, hreadable, hspelled⟩ := exists_readable hproper texts nests writable
    have hlength : wss.length ≤ c.maxSnapshotDepth + 1 := by
      rw [← hspelled.length_eq, length_bindings]
      exact Nat.succ_le_succ shallow
    rw [← serialize_of_captured known present shallow hcaptured]
    exact ⟨not_circular_of_nests nests, wss, hspelled,
      serialize_of_bindings present known hreadable hlength hspelled,
      fun t b' ids hknown hpresent hcopies =>
        serialize_of_bindings hpresent hknown hreadable hlength (hcopies.spells hspelled),
      exists_copiesChain hproper known fun es hes e he v hv => nests.nests hes he hv⟩

def woven : Session := (start ⟨[], none⟩).afterAll [
  .make (.list [.int 1]), .make (.tuple [.container 0, .container 0]), .make (.list []),
  .op (.scope (.create none)),
  .op (.scope (.set 0 "x" (.container 1) (some [(.text "unit", .container 0)]))),
  .op (.scope (.child 0)), .op (.scope (.set 1 "y" (.container 0) none)),
  .op (.scope (.create none)), .op (.scope (.set 2 "z" (.container 2) none)),
  .op (.host (.append 2 (.container 2)))]

theorem bindings_woven : woven.bindings 1 = [[⟨"y", .container 0, none⟩],
    [⟨"x", .container 1, some [(.text "unit", .container 0)]⟩]] := by
  rw [bindings, show woven.forest.chain 1 = [1, 0] by decide +kernel]
  rfl

theorem bindings_woven_two : woven.bindings 2 = [[⟨"z", .container 2, none⟩]] := by
  rw [bindings, show woven.forest.chain 2 = [2] by decide +kernel]
  rfl

theorem woven_bears : ∀ es ∈ woven.bindings 1, ∀ e ∈ es,
    (∀ m ∈ e.metadata, KeysText m) ∧ ∀ v ∈ e.values, v = .container 0 ∨ v = .container 1 := by
  rw [bindings_woven]
  intro es hes e he
  simp only [List.mem_cons, List.not_mem_nil, or_false] at hes
  rcases hes with rfl | rfl
  · rw [List.mem_singleton.mp he]
    exact ⟨fun _ h => absurd h (Option.not_mem_none _),
      fun v hv => Or.inl (List.mem_singleton.mp hv)⟩
  · rw [List.mem_singleton.mp he]
    refine ⟨?_, fun v hv => ?_⟩
    · rintro m ⟨⟩ p hp
      exact ⟨"unit", by rw [List.mem_singleton.mp hp]⟩
    · rcases List.mem_cons.mp hv with rfl | hv
      · exact Or.inr rfl
      · exact Or.inl (List.mem_singleton.mp hv)

theorem woven_nests {v : Value} (borne : v = .container 0 ∨ v = .container 1) :
    woven.heap.Nests 2 v ∧ ∀ w, woven.heap.Holds v w → woven.heap.Writable w := by
  have hlist : woven.heap.get? 0 = some (.list [.int 1]) := rfl
  have htuple : woven.heap.get? 1 = some (.tuple [.container 0, .container 0]) := rfl
  have hnests : ∀ n, woven.heap.Nests (n + 1) (.container 0) := fun n =>
    .container hlist fun w hw => .data fun id heq => by
      rw [List.mem_singleton.mp hw] at heq
      cases heq
  refine ⟨?_, fun w held => ?_⟩
  · rcases borne with rfl | rfl
    · exact hnests 1
    · refine .container htuple fun w hw => ?_
      rw [List.eq_of_mem_replicate (n := 2) hw]
      exact hnests 0
  · have hheld : w = .int 1 ∨ w = .container 0 ∨ w = .container 1 := by
      refine held.closed (P := fun u => u = .int 1 ∨ u = .container 0 ∨ u = .container 1)
        (Or.inr borne) ?_
      rintro id d (heq | heq | heq) found u hu
      · cases heq
      · cases heq
        cases hlist.symm.trans found
        exact Or.inl (List.mem_singleton.mp hu)
      · cases heq
        cases htuple.symm.trans found
        exact Or.inr (Or.inl (List.eq_of_mem_replicate (n := 2) hu))
    rcases hheld with rfl | rfl | rfl
    · show (Digits.ofNat 1).length ≤ Json.digitLimit
      decide
    · exact ⟨_, hlist, by simp⟩
    · exact ⟨_, htuple, by simp⟩

theorem woven_circular : woven.Circular 2 := by
  refine ⟨.container 2, ?_, 2, .self _, .list [.container 2], .container 2, rfl, ?_, .self _⟩
  · rw [Bears, bindings_woven_two]
    exact ⟨_, List.mem_singleton_self _, _, List.mem_singleton_self _, List.mem_cons_self⟩
  · exact List.mem_singleton_self _

/-- The chain with the list in four places is serialized, and so is one with four lists.  The chain
with the list that is inside itself is refused. -/
theorem woven_serialize :
    (∃ wss, woven.SpellsListed 1 wss ∧
      let text := (Written.chainTree wss).render
      (woven.step (.snapshot (.serialize 1))).2.answer = .ok (.text text) ∧
      ∃ events b' ids, woven.CopiesChain 1 (woven.afterAll events) b' ids ∧ ids.Nodup ∧
        ((woven.afterAll events).step (.snapshot (.serialize b'))).2.answer = .ok (.text text)) ∧
    ∃ r, (woven.step (.snapshot (.serialize 2))).2.answer =
      .error (.snapshot (.unwritable r)) := by
  have hreachable : woven.Reachable := ⟨_, _, rfl⟩
  constructor
  · obtain ⟨-, -, -, hserialized⟩ := serialize_linked hreachable (b := 1) (by decide) rfl
      (by decide +kernel) fun d hd e he => (woven_bears _ (List.mem_map_of_mem hd) e he).1
    have hfits : ∀ es ∈ woven.bindings 1, ∀ room, 2 < room → ∀ e ∈ es, ∀ v ∈ e.values,
        ∃ n < room, woven.heap.Nests n v := fun es hes room hroom e he v hv =>
      ⟨2, hroom, (woven_nests ((woven_bears es hes e he).2 v hv)).1⟩
    have hchain : woven.heap.NestsChain levelLimit (woven.bindings 1) := by
      rw [bindings_woven] at hfits ⊢
      show woven.heap.NestsChain (253 + 1 + 1) _
      exact ⟨hfits _ (by simp) _ (by decide), hfits _ (by simp) _ (by decide),
        by simp [Heap.NestsChain]⟩
    have hwritable : ∀ v, woven.Bears 1 v → ∀ w, woven.heap.Holds v w → woven.heap.Writable w := by
      rintro v ⟨es, hes, e, he, hv⟩
      exact (woven_nests ((woven_bears es hes e he).2 v hv)).2
    obtain ⟨-, wss, hspelled, htext, hcopies, events, b', ids, hknown, hpresent, hcopied,
      hnodup, -⟩ := hserialized hchain hwritable
    exact ⟨wss, hspelled, htext, events, b', ids, hcopied, hnodup,
      hcopies _ _ _ hknown hpresent hcopied⟩
  · refine (serialize_linked hreachable (b := 2) (by decide) rfl (by decide +kernel)
      fun d hd e he m hm => ?_).2.1 woven_circular
    have hes : (woven.forest.locals d).entries ∈ woven.bindings 2 := List.mem_map_of_mem hd
    rw [bindings_woven_two] at hes
    rw [List.mem_singleton.mp hes] at he
    rw [List.mem_singleton.mp he] at hm
    cases hm

end Session
end ScopeChain
