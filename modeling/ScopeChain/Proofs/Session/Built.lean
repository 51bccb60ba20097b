/-
Chains that a host builds.

Any containers can be made one after the other, and then any frames can be built as a chain: the
outermost scope is created, the others inside it one by one, and the variables of each are set.  So
a chain that binds what it should is one that a host reaches.
-/
import ScopeChain.Proofs.Session.Configured
import ScopeChain.Proofs.Session.Reach
import ScopeChain.Proofs.Snapshot.Restore
import ScopeChain.Proofs.Value.Copies

namespace ScopeChain

theorem Container.Distinct.made {c : Container} (distinct : c.Distinct) : c.made = c := by
  cases c with
  | list items => rfl
  | tuple items => rfl
  | dict entries => exact congrArg Container.dict (dictOf_of_distinct (distinct entries rfl))

namespace Session

variable {s t u : Session} {c : Config} {f g : Forest} {b : ScopeId}

theorem afterAll_make {cs : List Container} (distinct : ∀ d ∈ cs, d.Distinct) (s : Session) :
    s.afterAll (cs.map .make) = { s with heap := s.heap.allocAll cs } := by
  induction cs generalizing s with
  | nil => rfl
  | cons d rest ih =>
    have hmade : s.after (.make d) = { s with heap := (s.heap.alloc d).2 } := by
      rw [after, (distinct d List.mem_cons_self).made]
    rw [List.map_cons, afterAll, List.foldl_cons, hmade]
    exact ih (fun e he => distinct e (List.mem_cons_of_mem _ he)) _

/-- Whether a host gets from one session to another with these scopes, which has the containers
that there were and knows its configuration. -/
structure Builds (s : Session) (c : Config) (f : Forest) (t : Session) : Prop where
  reached : ∃ events, t = s.afterAll events
  forest : t.forest = f
  within : s.heap.Within t.heap
  known : t.configuration = .ok c

namespace Builds

theorem refl (known : s.configuration = .ok c) : s.Builds c s.forest s :=
  ⟨⟨[], rfl⟩, rfl, Heap.within_refl _, known⟩

theorem trans (first : s.Builds c f t) (second : t.Builds c g u) : s.Builds c g u where
  reached := by
    obtain ⟨events, rfl⟩ := first.reached
    obtain ⟨events', rfl⟩ := second.reached
    exact ⟨events ++ events', List.foldl_append.symm⟩
  forest := second.forest
  within := first.within.trans second.within
  known := second.known

theorem of_fresh {h : Heap} {ids : List ContainerId} (known : s.configuration = .ok c)
    (fresh : s.heap.Fresh h ids) : s.Builds c s.forest { s with heap := h } := by
  obtain ⟨cs, hdistinct, rfl⟩ := fresh.built
  exact ⟨⟨cs.map .make, (afterAll_make hdistinct s).symm⟩, rfl, fresh.within,
    Eq.trans (configuration_congr (s := s) rfl rfl) known⟩

theorem add (known : s.configuration = .ok c) {parent : Option ScopeId}
    (present : ∀ p ∈ parent, p < s.forest.size) :
    s.Builds c (s.forest.add parent).2
      { s with config := some c, forest := (s.forest.add parent).2 } := by
  refine ⟨⟨[.op (.scope (.create parent))], ?_⟩, rfl, Heap.within_refl _, rfl⟩
  show _ = (s.scopeStep (.create parent)).1
  cases parent with
  | none => rw [scopeStep, withConfig_of_ok known]; rfl
  | some p => rw [scopeStep, withScope, if_pos (present p rfl), withConfig_of_ok known]; rfl

theorem write (known : s.configuration = .ok c) (present : b < s.forest.size) {e : Entry}
    (distinct : e.Distinct) :
    s.Builds c (s.forest.write b e.name e.value e.metadata)
      (s.bind b e.name e.value e.metadata) := by
  have hdict : e.metadata.map dictOf = e.metadata := by
    cases hm : e.metadata with
    | none => rfl
    | some m => exact congrArg some (dictOf_of_distinct (distinct m hm))
  refine ⟨⟨[.op (.scope (.set b e.name e.value e.metadata))], ?_⟩, rfl, Heap.within_refl _,
    Eq.trans (configuration_congr (s := s) rfl rfl) known⟩
  show _ = (s.scopeStep (.set b e.name e.value e.metadata)).1
  rw [scopeStep, withScope, if_pos present, hdict]

theorem writeAll {es : List Entry} (distinct : ∀ e ∈ es, e.Distinct)
    (known : s.configuration = .ok c) (present : b < s.forest.size) :
    ∃ t, s.Builds c (s.forest.writeAll b es) t := by
  induction es generalizing s with
  | nil => exact ⟨s, .refl known⟩
  | cons e rest ih =>
    have hwrite := write known present (distinct e List.mem_cons_self)
    have hpresent : b < (s.bind b e.name e.value e.metadata).forest.size := by
      rw [hwrite.forest, Forest.size_write]
      exact present
    obtain ⟨u, hrest⟩ :=
      ih (fun d hd => distinct d (List.mem_cons_of_mem _ hd)) hwrite.known hpresent
    rw [hwrite.forest] at hrest
    exact ⟨u, hwrite.trans hrest⟩

theorem restoreFrame (known : s.configuration = .ok c) {parent : Option ScopeId}
    (present : ∀ p ∈ parent, p < s.forest.size) {frame : Frame}
    (distinct : ∀ e ∈ frame.entries, e.Distinct) :
    ∃ t, s.Builds c (Snapshot.restoreFrame s.forest parent frame).2 t := by
  have hadd := add known present
  have hnew : (s.forest.add parent).1 < (s.forest.add parent).2.size := by
    rw [Forest.size_add]
    exact Nat.lt_succ_self _
  obtain ⟨t, hset⟩ := writeAll distinct hadd.known hnew
  exact ⟨t, hadd.trans hset⟩

theorem restoreFrames {frames : List Frame} (known : s.configuration = .ok c)
    (distinct : ∀ frame ∈ frames, ∀ e ∈ frame.entries, e.Distinct) :
    ∃ t, s.Builds c (Snapshot.restoreFrames s.forest frames).2 t := by
  induction frames with
  | nil => exact ⟨s, .refl known⟩
  | cons frame outer ih =>
    obtain ⟨t, houter⟩ := ih fun d hd => distinct d (List.mem_cons_of_mem _ hd)
    have hpresent : ∀ p ∈ (Snapshot.restoreFrames s.forest outer).1, p < t.forest.size := by
      intro p hp
      have hrebuilt := Snapshot.rebuilt_restoreFrames s.forest outer
      rw [Option.mem_def.mp hp] at hrebuilt
      rw [houter.forest]
      exact hrebuilt.present
    obtain ⟨u, hframe⟩ := restoreFrame houter.known hpresent (distinct frame List.mem_cons_self)
    rw [houter.forest] at hframe
    exact ⟨u, houter.trans hframe⟩

end Builds

def bindings (s : Session) (b : ScopeId) : List (List Entry) :=
  (s.forest.chain b).map fun d => (s.forest.locals d).entries

/-- A host can build a chain with any variables, if they are in order and their metadata has
distinct keys. -/
theorem exists_chain {ess : List (List Entry)} (known : s.configuration = .ok c)
    (some : ess ≠ []) (sorted : ∀ es ∈ ess, Entry.Sorted es)
    (distinct : ∀ es ∈ ess, ∀ e ∈ es, e.Distinct) :
    ∃ f t b, s.Builds c f t ∧ b < t.forest.size ∧ t.bindings b = ess := by
  -- Depths are not looked at when frames are rebuilt.
  let frames := ess.map (Frame.mk 0 false)
  have hdistinct : ∀ frame ∈ frames, ∀ e ∈ frame.entries, e.Distinct := by
    intro frame hframe
    obtain ⟨es, hes, rfl⟩ := List.mem_map.mp hframe
    exact distinct es hes
  obtain ⟨t, hbuilds⟩ := Builds.restoreFrames known hdistinct
  have hrebuilt := Snapshot.rebuilt_restoreFrames s.forest frames
  obtain ⟨b, hb⟩ : ∃ b, (Snapshot.restoreFrames s.forest frames).1 = .some b := by
    obtain ⟨es, rest, rfl⟩ := List.exists_cons_of_ne_nil some
    exact ⟨_, rfl⟩
  rw [hb] at hrebuilt
  have hlocals : List.Forall₂ (fun d es => (t.forest.locals d).entries = es)
      (t.forest.chain b) ess := by
    rw [hbuilds.forest, hrebuilt.chain b rfl]
    refine Listwise.imp (List.forall₂_map_right_iff.mp hrebuilt.locals) fun d _ es hes h => ?_
    rw [show _ = Locals.ofEntries es from h, Locals.entries_ofEntries (sorted es hes)]
  refine ⟨_, t, b, hbuilds, ?_, ?_⟩
  · rw [hbuilds.forest]
    exact hrebuilt.present
  · rw [bindings, Listwise.map_eq hlocals fun _ _ _ _ h => h, List.map_id']

end Session
end ScopeChain
