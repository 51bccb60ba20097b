/-
Snapshots and rebuilt chains are isolated.

A snapshot keeps what it was captured of: nothing that is done with scopes or scripts later, on
the captured chain or on chains that were rebuilt, changes a frame of it or what is restored from
it.  A rebuilt chain is new, and a write through it, to one of its scopes or from below, is not
seen from a scope that is neither on the chain nor below it.  For the last it does not matter how
a forest came to be: a forest and the same forest after a write to a scope look the same from
every scope whose chain the written one is not on.
-/
import ScopeChain.Proofs.Session.Kept
import ScopeChain.Proofs.Session.Rebuilt
import ScopeChain.Proofs.Session.Seen
import ScopeChain.Proofs.Session.Twins

namespace ScopeChain

/-! ## Images under the identity -/

theorem ScopeOp.image_id (op : ScopeOp) : op.image id = op := by
  cases op with
  | create parent => exact congrArg ScopeOp.create (congrFun Option.map_id parent)
  | _ => rfl

theorem Op.image_id (op : Op) : op.image id = op := by
  cases op with
  | scope op => exact congrArg Op.scope op.image_id
  | snapshot op => cases op <;> rfl
  | _ => rfl

theorem Reply.image_id (r : Reply) : r.image id = r := by
  cases r with
  | scopes bs => exact congrArg Reply.scopes (List.map_id bs)
  | _ => rfl

theorem Outcome.image_id (o : Outcome) : o.image id = o := by
  obtain ⟨answer, log⟩ := o
  cases answer with
  | ok r => exact congrArg (fun r => Outcome.mk (.ok r) log) r.image_id
  | error e => rfl

def Locals.TextKeyed (l : Locals) : Prop := ∀ e ∈ l.entries, ∀ m ∈ e.metadata, KeysText m

/-! ## Scopes apart from a chain -/

namespace Forest

variable {f : Forest} {cs : List ScopeId} {b c : ScopeId}

/-- Whether a scope is neither among the scopes of a chain nor below one of them. -/
def Apart (f : Forest) (cs : List ScopeId) (c : ScopeId) : Prop := ∀ d ∈ f.chain c, d ∉ cs

theorem Apart.of_mem_chain (apart : f.Apart cs c) {d : ScopeId} (hd : d ∈ f.chain c) :
    f.Apart cs d :=
  fun _ he => apart _ (mem_chain_trans hd he)

/-- A scope that is still to be made is apart from all that exist. -/
theorem apart_of_le (present : ∀ d ∈ cs, d < f.size) (le : f.size ≤ c) : f.Apart cs c := by
  intro d hd hmem
  rw [chain_of_global (parent?_of_le le), List.mem_singleton] at hd
  subst hd
  exact absurd (present d hmem) (Nat.not_lt.mpr le)

/-- From the scopes that are apart, a forest looks as it does after a write to one that is
not. -/
theorem paired_write (present : ∀ d ∈ cs, d < f.size) (below : ¬ f.Apart cs b) (name : String)
    (value : Value) (metadata : Option Metadata) :
    Paired id (f.Apart cs) f (f.write b name value metadata) where
  size := size_write ..
  present _ _ := Iff.rfl
  parent? c _ := (parent?_write ..).trans (congrFun Option.map_id (f.parent? c)).symm
  closed c apart p hp := by
    refine apart.of_mem_chain ?_
    rw [chain_of_parent hp]
    exact List.mem_cons_of_mem _ (mem_chain_self f p)
  locals c apart := by
    have hne : c ≠ b := fun h => below (h ▸ apart)
    exact locals_write_of_ne f hne ..
  fresh c le := ⟨apart_of_le present le, rfl⟩
  injective _ _ _ _ h := h

end Forest

namespace Session

variable {s t : Session} {op : Op} {b : ScopeId} {w : Write} {c : Config}

/-- A write that goes to a scope on or below a chain, or to its root, goes to a scope on or below
that chain. -/
theorem Binds.target_not_apart (binds : s.Binds op b w) {a : ScopeId}
    (below : ¬ s.forest.Apart (s.forest.chain a) b) :
    ¬ s.forest.Apart (s.forest.chain a) w.scope := by
  rcases binds.target with h | h
  · rw [h]
    exact below
  · -- The chains meet, so they have one root.
    obtain ⟨d, hb, ha⟩ : ∃ d ∈ s.forest.chain b, d ∈ s.forest.chain a := by
      simpa only [Forest.Apart, not_forall, not_not, exists_prop] using below
    have hroot : s.forest.root b = s.forest.root a := by
      rw [← Forest.root_of_mem_chain hb, Forest.root_of_mem_chain ha]
    intro apart
    refine apart w.scope (Forest.mem_chain_self ..) ?_
    rw [h, hroot]
    exact Forest.root_mem_chain ..

/-- No run of operations on scopes that are apart from a chain can tell whether there was a write
through the chain. -/
theorem run_of_apart (kept : s.config = some c) {a : ScopeId} (present : a < s.forest.size)
    (binds : s.Binds op b w) (below : ¬ s.forest.Apart (s.forest.chain a) b) {ops : List Op}
    (on : ∀ op ∈ ops, op.On (s.forest.Apart (s.forest.chain a))) :
    ((s.step op).1.run ops).2 = (s.run ops).2 := by
  have hpresent : ∀ d ∈ s.forest.chain a, d < s.forest.size := fun d hd =>
    Nat.lt_of_le_of_lt (Forest.le_of_mem_chain hd) present
  have hpaired := Forest.paired_write hpresent (binds.target_not_apart below) w.name w.value
    w.metadata
  have htwins : Twins id (s.forest.Apart (s.forest.chain a)) s (s.written w) :=
    ⟨⟨c, kept⟩, rfl, hpaired⟩
  obtain ⟨-, houtcomes⟩ := twins_run htwins on
  rw [funext Op.image_id, funext Outcome.image_id, List.map_id', List.map_id'] at houtcomes
  rw [binds.step]
  exact houtcomes

/-! ## What is kept of a captured chain -/

theorem ask_localItems (present : b < s.forest.size) :
    s.ask (.localItems b) = .reply (.items (s.forest.locals b).entries) :=
  ask_answer present rfl

/-- What is captured of a scope is restored as the items of a new one, and if all metadata keys
of the scope are texts, those are its items. -/
def Copied (s : Session) (b : ScopeId) (t : Session) (b' : ScopeId) : Prop :=
  ∃ items, Snapshot.captureEntries (s.forest.locals b).entries = .ok items ∧
    t.ask (.localItems b') = .reply (.items items) ∧
    ((s.forest.locals b).TextKeyed → s.ask (.localItems b) = .reply (.items items))

/-- Whenever a snapshot of a chain is restored, each scope of the chain is copied. -/
theorem restore_copies (proper : s.Proper) (present : b < s.forest.size) {snapshot : Snapshot}
    (captured : Snapshot.capture s.forest b = .ok snapshot) {id : SnapshotId}
    (known : t.configuration = .ok c) (found : t.snapshots[id]? = some snapshot) :
    ∃ b', t.Rebuilds (.snapshot (.restore id)) b' ∧
      List.Forall₂ (fun d d' => s.Copied d (t.step (.snapshot (.restore id))).1 d')
        (s.forest.chain b) ((t.step (.snapshot (.restore id))).1.forest.chain b') := by
  have hrebuilt := Snapshot.rebuilt_restore t.forest snapshot
  obtain ⟨-, -, hcaptured⟩ := Snapshot.capture_eq_ok.mp captured
  have hstep := restore_of_found known found
  refine ⟨(snapshot.restore t.forest).1, ⟨.restore id, by rw [hstep]; rfl⟩, ?_⟩
  rw [hstep]
  show List.Forall₂ _ (s.forest.chain b)
    ((snapshot.restore t.forest).2.chain (snapshot.restore t.forest).1)
  rw [hrebuilt.chain _ rfl]
  refine Listwise.comp hcaptured hrebuilt.locals.flip
    fun d hd frame _ d' hd' hentries hlocals => ⟨frame.entries, hentries, ?_, fun texts => ?_⟩
  · have hpresent : d' < (snapshot.restore t.forest).2.size := by
      rw [hrebuilt.size]
      exact (Snapshot.mem_newScopes.mp hd').2
    have hlocals : (snapshot.restore t.forest).2.locals d' = .ofEntries frame.entries := hlocals
    have hsorted := Snapshot.sorted_of_captureEntries (s.forest.locals d).sorted hentries
    refine (ask_localItems hpresent).trans ?_
    show Outcome.reply (.items ((snapshot.restore t.forest).2.locals d').entries) = _
    rw [hlocals, Locals.entries_ofEntries hsorted]
  · have hplain : ∀ e ∈ (s.forest.locals d).entries, e.Plain := fun e he m hm =>
      ⟨texts e he m hm, proper.scopes d e he m hm⟩
    have hsame := (Snapshot.captureEntries_of_plain hplain).symm.trans hentries
    rw [ask_localItems (Nat.lt_of_le_of_lt (Forest.le_of_mem_chain hd) present),
      Except.ok.inj hsame]

/-- Whatever is done with scopes, scripts and snapshots after a chain was captured, the snapshot
has the frames that it had, over containers that hold what they held, and it is restored with
what was captured, which is what the scopes had where metadata keys are texts.

A chain that an operation rebuilds is new: its scopes were not there before and are not among
those of a chain that is rebuilt later.  And whatever is done after that, unless the
configuration is reloaded, a write to a scope of the chain or below, or to its root, changes no
answer of a scope that is neither on the chain nor below it. -/
theorem snapshots_isolated (reachable : s.Reachable) :
    (∀ b id, (s.step (.snapshot (.capture b))).2.answer = .ok (.snapshot id) →
      ∀ events : List Event, (∀ event ∈ events, event.Ordinary) →
      let s₁ := (s.step (.snapshot (.capture b))).1
      let t := s₁.afterAll events
      (∃ frames, (s₁.step (.snapshot (.frames id))).2 = .reply (.frames frames) ∧
        (t.step (.snapshot (.frames id))).2 = .reply (.frames frames) ∧
        s₁.heap.Within t.heap) ∧
      ∃ b', t.Rebuilds (.snapshot (.restore id)) b' ∧
        List.Forall₂ (fun d d' => s.Copied d (t.step (.snapshot (.restore id))).1 d')
          (s.forest.chain b) ((t.step (.snapshot (.restore id))).1.forest.chain b')) ∧
    (∀ op a, s.Rebuilds op a →
      let r := (s.step op).1
      (∀ d ∈ r.forest.chain a, s.forest.size ≤ d) ∧
      (∀ (events : List Event) (op' : Op) (a' : ScopeId), (r.afterAll events).Rebuilds op' a' →
        ∀ d ∈ ((r.afterAll events).step op').1.forest.chain a', d ∉ r.forest.chain a) ∧
      (∀ events : List Event, .op (.settings .reload) ∉ events →
        let t := r.afterAll events
        t.forest.chain a = r.forest.chain a ∧
        ∀ op' b w, t.Binds op' b w → ¬ t.forest.Apart (t.forest.chain a) b →
          ∀ ops : List Op, (∀ o ∈ ops, o.On (t.forest.Apart (t.forest.chain a))) →
            ((t.step op').1.run ops).2 = (t.run ops).2)) := by
  refine ⟨fun b id captured events ordinary => ?_, fun op a rebuilds => ?_⟩
  · obtain ⟨c, snapshot, hcapture, rfl, hpresent, hstep⟩ := capture_of_answered captured
    rw [hstep]
    have hkeeps := keeps_afterAll
      (s := { s with config := some c, snapshots := s.snapshots.push snapshot }) ordinary
    have hfound := hkeeps.snapshots s.snapshots.size snapshot Array.getElem?_push_size
    have hknown := configuration_of_kept (hkeeps.config c rfl)
    refine ⟨⟨snapshot.frames, ?_, ?_, hkeeps.heap⟩,
      restore_copies reachable.proper hpresent hcapture hknown hfound⟩
    · rw [frames_of_found Array.getElem?_push_size]
    · rw [frames_of_found hfound]
  · obtain ⟨⟨c, hkept⟩, -⟩ := rebuilds.rebuilt
    have hmem : a ∈ (s.step op).1.forest.chain a := Forest.mem_chain_self ..
    have hproper := reachable.proper.step op
    have hlasts : ∀ events : List Event,
        (s.step op).1.forest.Extends ((s.step op).1.afterAll events).forest :=
      fun events => hproper.extends_afterAll events
    refine ⟨fun d hd => (rebuilds.new hd).1, fun events op' a' again d hd hold => ?_,
      fun events same => ?_⟩
    · have hlt := Nat.lt_of_lt_of_le (rebuilds.new hold).2 (hlasts events).size
      exact absurd (again.new hd).1 (Nat.not_le.mpr hlt)
    · have hpresent : a < ((s.step op).1.afterAll events).forest.size :=
        Nat.lt_of_lt_of_le (rebuilds.new hmem).2 (hlasts events).size
      refine ⟨(hlasts events).chain (rebuilds.new hmem).2, fun op' b w binds below ops on => ?_⟩
      exact run_of_apart (config_afterAll same hkept) hpresent binds below on

def interference : List Event := [
  .op (.scope (.set 1 "x" .null none)), .op (.snapshot (.restore 0)),
  .op (.scope (.setGlobal 2 "x" (.int 7)))]

/-- The chain of three scopes is captured, and then written and restored.  What is restored next
is what was captured, and no write to that is seen from the chain itself. -/
theorem threefold_isolated :
    ∃ t a, t = (threefold.step (.snapshot (.capture 2))).1.afterAll interference ∧
      let r := (t.step (.snapshot (.restore 0))).1
      List.Forall₂ (fun d d' => threefold.ask (.localItems d) = r.ask (.localItems d'))
        (threefold.forest.chain 2) (r.forest.chain a) ∧
      ((r.step (.scope (.setGlobal a "x" .null))).1.run
          [.scope (.get 2 "x"), .scope (.metadata 2 "x")]).2 =
        (r.run [.scope (.get 2 "x"), .scope (.metadata 2 "x")]).2 := by
  have hreachable : threefold.Reachable := ⟨_, _, rfl⟩
  have hchain : threefold.forest.chain 2 = [2, 1, 0] := by decide +kernel
  have htexts : ∀ d ∈ threefold.forest.chain 2, (threefold.forest.locals d).TextKeyed := by
    rw [hchain]
    intro d hd e he m hm
    simp only [List.mem_cons, List.not_mem_nil, or_false] at hd
    rcases hd with rfl | rfl | rfl
    · cases he
    · obtain rfl : e = ⟨"x", .int 1, some [(.text "unit", .text "m")]⟩ :=
        List.mem_singleton.mp he
      cases hm
      intro p hp
      exact ⟨"unit", by rw [List.mem_singleton.mp hp]⟩
    · cases he
  obtain ⟨snapshot, hcapture, -⟩ := Snapshot.capture_of_plain fun d hd e he m hm =>
    ⟨htexts d hd e he m hm, hreachable.proper.scopes d e he m hm⟩
  have hcaptured : (threefold.step (.snapshot (.capture 2))).2.answer = .ok (.snapshot 0) := by
    rw [capture_of_ok rfl (by decide) (by decide +kernel) hcapture]
    rfl
  obtain ⟨-, a, hrebuilds, hcopied⟩ := (snapshots_isolated hreachable).1 2 0 hcaptured
    interference (by simp [interference, Event.Ordinary])
  have hproper := hreachable.proper.step (.snapshot (.capture 2))
  have hsize := (hreachable.proper.extends_after (.op (.snapshot (.capture 2)))).size.trans
    (hproper.extends_afterAll interference).size
  have hreached :
      ((threefold.step (.snapshot (.capture 2))).1.afterAll interference).Reachable :=
    (hreachable.afterAll [.op (.snapshot (.capture 2))]).afterAll interference
  refine ⟨_, a, rfl, ?_⟩
  -- From here on it does not matter how the session came to be.
  generalize (threefold.step (.snapshot (.capture 2))).1.afterAll interference = t
    at hrebuilds hcopied hsize hreached ⊢
  intro r
  refine ⟨Listwise.imp hcopied fun d hd d' _ hcopy => ?_, ?_⟩
  · obtain ⟨items, -, hask, hsame⟩ := hcopy
    exact (hsame (htexts d hd)).trans hask.symm
  · obtain ⟨hnew, -, hunseen⟩ := (snapshots_isolated hreached).2 _ a hrebuilds
    obtain ⟨-, hruns⟩ := hunseen [] (by simp)
    have hmem : a ∈ r.forest.chain a := Forest.mem_chain_self ..
    have hapart : r.forest.Apart (r.forest.chain a) 2 := by
      intro d hd hold
      have hle : d ≤ 2 := Forest.le_of_mem_chain hd
      exact absurd (hsize.trans ((hnew d hold).trans hle)) (by decide)
    refine hruns _ a _ (.setGlobal (hrebuilds.new hmem).2) (fun h => h a hmem hmem) _ ?_
    simp only [List.mem_cons, List.not_mem_nil, or_false]
    rintro o (rfl | rfl)
    · exact hapart
    · exact hapart

def bytesKeyed : Session := (start ⟨[], none⟩).afterAll [
  .op (.scope (.create none)),
  .op (.scope (.set 0 "x" (.int 1) (some [(.bytes [0x6b], .int 1)])))]

/-- A chain with such a key is captured, and restored with a text for the key. -/
theorem bytesKeyed_not_copied :
    let s₁ := (bytesKeyed.step (.snapshot (.capture 0))).1
    (bytesKeyed.step (.snapshot (.capture 0))).2.answer = .ok (.snapshot 0) ∧
      (s₁.step (.snapshot (.restore 0))).2.answer = .ok (.scope 1) ∧
      bytesKeyed.ask (.localItems 0) =
        .reply (.items [⟨"x", .int 1, some [(.bytes [0x6b], .int 1)]⟩]) ∧
      (s₁.step (.snapshot (.restore 0))).1.ask (.localItems 1) =
        .reply (.items [⟨"x", .int 1, some [(.text "k", .int 1)]⟩]) := by
  have hchain : bytesKeyed.forest.chain 0 = [0] := by decide +kernel
  have hcapture : Snapshot.capture bytesKeyed.forest 0 =
      .ok ⟨⟨0, true, [⟨"x", .int 1, some [(.text "k", .int 1)]⟩]⟩, [], none⟩ := by
    refine Snapshot.capture_eq_ok.mpr ⟨rfl, ⟨rfl, rfl, trivial⟩, ?_⟩
    rw [hchain]
    exact .cons rfl .nil
  have hstep := capture_of_ok (s := bytesKeyed) rfl (by decide) (by decide +kernel)
    hcapture
  intro s₁
  rw [show s₁ = _ from congrArg Prod.fst hstep, hstep]
  exact ⟨rfl, rfl, rfl, rfl⟩

end Session
end ScopeChain
