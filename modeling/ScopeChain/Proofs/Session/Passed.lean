/-
Values that are passed from data to scopes.

Loading data ends, whatever refers to whatever in it.  Data whose way outward comes to a value
twice, or has no end within the scopes that there is room for, is refused, and the session stays
as it is.  The scopes of a chain that is loaded hold the values that the data holds, so a
container among them is the same one in both, and whatever a host does to it is done to both.
-/
import ScopeChain.Proofs.Dialogue.Mutation
import ScopeChain.Proofs.Session.Canonical
import ScopeChain.Proofs.Session.Isolated
import ScopeChain.Proofs.Session.Logged
import ScopeChain.Proofs.Snapshot.Given

namespace ScopeChain

/-- The value that pairs leave of a name, which is that of the last pair. -/
def lastGiven (name : String) (given : List (String × Value)) : Option Value :=
  (given.filter fun p => p.1 = name).getLast?.map Prod.snd

theorem Entry.value_last (name : String) (entries : List Entry) :
    (last name entries).map (·.value) =
      lastGiven name (entries.map fun e => (e.name, e.value)) := by
  rw [lastGiven, List.filter_map, List.getLast?_map, Option.map_map, last, Option.map_map]
  rfl

theorem Locals.mem_ofEntries_given {frame : Frame} {name : String} {v : Value} :
    (∃ m, ⟨name, v, m⟩ ∈ (ofEntries frame.entries).entries) ↔
      lastGiven name frame.given = some v := by
  rw [Frame.given, ← Entry.value_last]
  constructor
  · rintro ⟨m, hm⟩
    rw [mem_ofEntries.mp hm]
    rfl
  · intro h
    obtain ⟨e, he, rfl⟩ := Option.map_eq_some_iff.mp h
    obtain ⟨d, -, rfl⟩ := Option.map_eq_some_iff.mp he
    exact ⟨_, mem_ofEntries.mpr he⟩

inductive Event.OnHeap : Event → Prop where
  | make (c : Container) : OnHeap (.make c)
  | op (op : HostOp) : OnHeap (.op (.host op))

namespace Session

variable {s t : Session} {b : ScopeId} {data : Value} {snapshot : Snapshot} {events : List Event}

/-! ## What a host does to containers -/

theorem after_onHeap {event : Event} (on : event.OnHeap) (same : t.heap = s.heap) :
    t.after event = { t with heap := (s.after event).heap } := by
  obtain ⟨heap, forest, snapshots, scripts, sources, config⟩ := t
  cases same
  cases on with
  | make c => rfl
  | op op =>
    cases op with
    | give v => rfl
    | append id v =>
      simp only [after, step, hostStep]
      cases s.heap.append id v with
      | some heap => rfl
      | none => rfl
    | put id key v =>
      simp only [after, step, hostStep]
      cases s.heap.put id key v with
      | some heap => rfl
      | none => rfl

theorem afterAll_onHeap (on : ∀ event ∈ events, event.OnHeap) (same : t.heap = s.heap) :
    t.afterAll events = { t with heap := (s.afterAll events).heap } := by
  induction events generalizing s t with
  | nil =>
    show t = { t with heap := s.heap }
    rw [← same]
  | cons event rest ih =>
    obtain ⟨hevent, hrest⟩ := List.forall_mem_cons.mp on
    have hafter := after_onHeap hevent same
    have hheap : (t.after event).heap = (s.after event).heap := by rw [hafter]
    refine (ih hrest hheap).trans ?_
    rw [hafter]
    rfl

theorem heap_afterAll_onHeap (on : ∀ event ∈ events, event.OnHeap) (same : t.heap = s.heap) :
    (t.afterAll events).heap = (s.afterAll events).heap := by
  rw [afterAll_onHeap on same]

/-! ## Loaded chains -/

/-- Whether a scope answers that it holds these names and values, and no others. -/
def Holds (s : Session) (given : List (String × Value)) (b : ScopeId) : Prop :=
  ∃ es, s.ask (.localItems b) = .reply (.items es) ∧
    ∀ name v, (∃ m, ⟨name, v, m⟩ ∈ es) ↔ lastGiven name given = some v

theorem rebuild_holds (s : Session) (snapshot : Snapshot) :
    ∃ ds, (s.rebuild snapshot).1.ask (.chain (snapshot.restore s.forest).1) =
        .reply (.scopes ds) ∧
      List.Forall₂ (s.rebuild snapshot).1.Holds (snapshot.frames.map Frame.given) ds := by
  have hrebuilt := Snapshot.rebuilt_restore s.forest snapshot
  refine ⟨_, ask_chain hrebuilt.present, ?_⟩
  rw [show (s.rebuild snapshot).1.forest.chain _ = _ from hrebuilt.chain _ rfl,
    List.forall₂_map_left_iff]
  refine (Listwise.imp hrebuilt.locals fun d hd frame _ hlocals => ?_).flip
  have hpresent : d < (s.rebuild snapshot).1.forest.size := by
    rw [show (s.rebuild snapshot).1.forest.size = _ from hrebuilt.size]
    exact (Snapshot.mem_newScopes.mp hd).2
  show (s.rebuild snapshot).1.Holds frame.given d
  refine ⟨_, ask_localItems hpresent, fun name v => ?_⟩
  rw [show (s.rebuild snapshot).1.forest.locals d = _ from hlocals]
  exact Locals.mem_ofEntries_given

/-- What a host does to containers changes no answer of a scope. -/
theorem Holds.afterAll (on : ∀ event ∈ events, event.OnHeap) {given : List (String × Value)}
    (holds : s.Holds given b) : (s.afterAll events).Holds given b := by
  obtain ⟨es, hes, hgiven⟩ := holds
  refine ⟨es, ?_, hgiven⟩
  rw [afterAll_onHeap on rfl, ask_heap]
  exact hes

/-- Data is refused if no parent is a snapshot, and its way outward comes to a value twice or has
no end within 255 scopes. -/
theorem load_refused_of_endless (unsnapped : Unsnapped s.heap s.snapshots data)
    (endless : Circles s.heap data ∨ ¬ Ends s.heap s.snapshots 255 data) :
    ∃ faults, s.step (.snapshot (.load data)) = s.fail (.snapshot (.invalid faults)) := by
  cases hread : Snapshot.ofValue s.heap s.snapshots data with
  | error faults => exact ⟨faults, loadFrom_of_error hread⟩
  | ok snapshot =>
    have hends : Ends s.heap s.snapshots 255 data := Snapshot.ends_of_checkScope unsnapped hread
    rcases endless with hcircles | hno
    · exact absurd hcircles hends.not_circles
    · exact absurd hends hno

/-- Loading data gives a chain, or it fails and leaves the session as it is.  It fails if the way
outward comes to a value twice or has no end within 255 scopes, where no parent is a snapshot.  A
chain that is loaded holds the values that the data holds.  It holds them as long as a host only
works on containers, and these are the containers that there would be if nothing was loaded. -/
theorem load_passes (s : Session) (data : Value) :
    let r := s.step (.snapshot (.load data))
    ((∃ b, r.2.answer = .ok (.scope b)) ∨ ∃ e, r = s.fail (.snapshot e)) ∧
    (Unsnapped s.heap s.snapshots data →
      (Circles s.heap data ∨ ¬ Ends s.heap s.snapshots 255 data) →
        ∃ faults, r = s.fail (.snapshot (.invalid faults))) ∧
    ∀ b, r.2.answer = .ok (.scope b) →
      ∃ given ds, GivesChain s.heap s.snapshots data given ∧
        ∀ events : List Event, (∀ event ∈ events, event.OnHeap) →
          (r.1.afterAll events).heap = (s.afterAll events).heap ∧
          (r.1.afterAll events).ask (.chain b) = .reply (.scopes ds) ∧
          List.Forall₂ (r.1.afterAll events).Holds given ds := by
  intro r
  refine ⟨?_, load_refused_of_endless, fun b hb => ?_⟩
  · rcases loadFrom_cases s s.heap data with ⟨c, snapshot, -, heq⟩ | ⟨e, heq⟩
    · exact Or.inl ⟨_, congrArg (·.2.answer) heq⟩
    · exact Or.inr ⟨e, heq⟩
  · rcases loadFrom_cases s s.heap data with ⟨c, snapshot, hread, heq⟩ | ⟨e, heq⟩
    · have hr : r = _ := heq
      rw [hr] at hb ⊢
      obtain ⟨ds, hchain, hholds⟩ := rebuild_holds { s with config := some c } snapshot
      have hscope : (snapshot.restore s.forest).1 = b := Reply.scope.inj (Except.ok.inj hb)
      rw [← hscope]
      refine ⟨_, ds, Snapshot.gives_of_checkScope hread, fun events on =>
        ⟨heap_afterAll_onHeap on rfl, ?_, ?_⟩⟩
      · rw [afterAll_onHeap on rfl, ask_heap]
        exact hchain
      · exact hholds.imp fun given d hd => hd.afterAll on
    · rw [show r = _ from heq] at hb
      cases hb

/-- A session with a list that holds itself, data of one scope with the list as the value of a
variable, and a dict that is its own parent. -/
def selfHeld : Session := (start ⟨[], none⟩).afterAll [
  .make (.list []), .op (.host (.append 0 (.container 0))),
  .make (.dict [(.text "name", .text "x"), (.text "value", .container 0)]),
  .make (.list [.container 1]),
  .make (.dict [(.text "depth", .int 0), (.text "is_global", .bool true),
    (.text "variables", .container 2)]),
  .make (.dict [(.text "depth", .int 1), (.text "is_global", .bool false)]),
  .op (.host (.put 4 (.text "parent") (.container 4)))]

/-- The list is passed to the scope, which holds it while the host changes it.  The dict is
refused. -/
theorem selfHeld_passes :
    (∃ b given ds, (selfHeld.step (.snapshot (.load (.container 3)))).2.answer = .ok (.scope b) ∧
      GivesChain selfHeld.heap selfHeld.snapshots (.container 3) given ∧
      let t := (selfHeld.step (.snapshot (.load (.container 3)))).1.afterAll
        [.op (.host (.append 0 .null))]
      t.heap.get? 0 = some (.list [.container 0, .null]) ∧ t.ask (.chain b) = .reply (.scopes ds) ∧
        List.Forall₂ t.Holds given ds) ∧
    ∃ faults, selfHeld.step (.snapshot (.load (.container 4))) =
      selfHeld.fail (.snapshot (.invalid faults)) := by
  have hparent : ∀ k, selfHeld.heap.outward k (.container 4) = some (.container 4) := by
    intro k
    induction k with
    | zero => rfl
    | succ k ih => exact ih
  obtain ⟨-, -, hpassed⟩ := load_passes selfHeld (.container 3)
  obtain ⟨-, hrefused, -⟩ := load_passes selfHeld (.container 4)
  constructor
  · obtain ⟨given, ds, hgives, hlater⟩ := hpassed 0 rfl
    obtain ⟨hheap, hchain, hholds⟩ := hlater [.op (.host (.append 0 .null))] fun event hmem => by
      obtain rfl := List.mem_singleton.mp hmem
      exact .op _
    refine ⟨0, given, ds, rfl, hgives, ?_, hchain, hholds⟩
    rw [hheap]
    rfl
  · have hunsnapped : Unsnapped selfHeld.heap selfHeld.snapshots (.container 4) :=
      ⟨fun k id h => (nomatch (hparent (k + 1)).symm.trans h), fun id s h => nomatch h⟩
    exact hrefused hunsnapped (Or.inl ⟨0, 1, _, Nat.zero_lt_one, hparent 0, hparent 1⟩)

end Session
end ScopeChain
