/-
Loading data that says the same in another way.

Data and what it is edited into are loaded alike, one after the other: both are refused for the
same reason, or both give chains whose scopes hold the same, level by level.  Unknown keys, the
order of keys and defaults that are written out make no difference, and where data is loaded, the
order of variables of distinct names makes none.
-/
import ScopeChain.Proofs.Session.Isolated
import ScopeChain.Proofs.Session.Logged
import ScopeChain.Proofs.Snapshot.Edited

namespace ScopeChain
namespace Session

variable {s : Session} {c : Config} {data data' : Value} {snapshot snapshot' : Snapshot}

def SameItems (s : Session) (b b' : ScopeId) : Prop :=
  ∃ es, s.ask (.localItems b) = .reply (.items es) ∧ s.ask (.localItems b') = .reply (.items es)

/-- Whether values that are loaded one after the other are refused for one reason, or give chains
that hold the same level by level. -/
def LoadsAlike (s : Session) (data data' : Value) : Prop :=
  let r := s.step (.snapshot (.load data))
  let r' := r.1.step (.snapshot (.load data'))
  (∃ e, r = s.fail e ∧ r' = s.fail e) ∨
    ∃ b b' ds ds', r.2.answer = .ok (.scope b) ∧ r'.2.answer = .ok (.scope b') ∧
      r'.1.ask (.chain b) = .reply (.scopes ds) ∧ r'.1.ask (.chain b') = .reply (.scopes ds') ∧
      List.Forall₂ r'.1.SameItems ds ds'

/-- Chains that are rebuilt one after the other hold the same if their frames bind the same. -/
theorem rebuild_twice (s : Session) (kept : Option Config)
    (alike : List.Forall₂ Frame.Alike snapshot.frames snapshot'.frames) :
    let t := (s.rebuild snapshot).1
    let t' := (({ t with config := kept } : Session).rebuild snapshot').1
    ∃ ds ds', t'.ask (.chain (snapshot.restore s.forest).1) = .reply (.scopes ds) ∧
      t'.ask (.chain (snapshot'.restore t.forest).1) = .reply (.scopes ds') ∧
      List.Forall₂ t'.SameItems ds ds' := by
  intro t t'
  have hfirst := Snapshot.rebuilt_restore s.forest snapshot
  have hsecond := Snapshot.rebuilt_restore t.forest snapshot'
  have hpresent : (snapshot.restore s.forest).1 < t.forest.size := hfirst.present
  have hlater : (snapshot.restore s.forest).1 < t'.forest.size :=
    Nat.lt_of_lt_of_le hpresent hsecond.within.size
  refine ⟨_, _, ask_chain hlater, ask_chain hsecond.present, ?_⟩
  have hchain : t'.forest.chain (snapshot.restore s.forest).1 =
      Snapshot.newScopes s.forest.size snapshot.frames.length :=
    (hsecond.within.toExtends.chain hpresent).trans (hfirst.chain _ rfl)
  have hchain' : t'.forest.chain (snapshot'.restore t.forest).1 =
      Snapshot.newScopes t.forest.size snapshot'.frames.length := hsecond.chain _ rfl
  rw [hchain, hchain']
  have hframes := Listwise.comp hfirst.locals alike
    (t := fun d frame => (t.forest.locals d) = .ofEntries (Frame.entries frame))
    fun d _ frame _ frame' _ hd halike => hd.trans halike.2
  refine Listwise.comp hframes hsecond.locals.flip fun d hd frame _ d' hd' hlocals hlocals' => ?_
  have hd : d < t.forest.size := by
    rw [show t.forest.size = _ from hfirst.size]
    exact (Snapshot.mem_newScopes.mp hd).2
  have hd' : d' < t'.forest.size := by
    rw [show t'.forest.size = _ from hsecond.size]
    exact (Snapshot.mem_newScopes.mp hd').2
  have hitems : t'.forest.locals d = t'.forest.locals d' :=
    (hsecond.within.locals d hd).trans (hlocals.trans hlocals'.symm)
  refine ⟨_, ask_localItems (Nat.lt_of_lt_of_le hd hsecond.within.size), ?_⟩
  rw [hitems]
  exact ask_localItems hd'

/-- Data is loaded alike if it is read as the same or as chains that bind the same. -/
theorem loadsAlike_of_read
    (same : (∃ faults, Snapshot.ofValue s.heap s.snapshots data = .error faults ∧
        Snapshot.ofValue s.heap s.snapshots data' = .error faults) ∨
      ∃ x y, Snapshot.ofValue s.heap s.snapshots data = .ok x ∧
        Snapshot.ofValue s.heap s.snapshots data' = .ok y ∧
        List.Forall₂ Frame.Alike x.frames y.frames) : s.LoadsAlike data data' := by
  rcases same with ⟨faults, hread, hread'⟩ | ⟨x, y, hread, hread', halike⟩
  · have hfirst : s.step (.snapshot (.load data)) = s.fail (.snapshot (.invalid faults)) :=
      loadFrom_of_error hread
    refine Or.inl ⟨_, hfirst, ?_⟩
    rw [hfirst]
    exact loadFrom_of_error hread'
  · cases hc : s.configuration with
    | error e =>
      have hfirst : s.step (.snapshot (.load data)) = s.fail (.snapshot (.ofSettings e)) :=
        loadFrom_of_unloaded hc hread
      refine Or.inl ⟨_, hfirst, ?_⟩
      rw [hfirst]
      exact loadFrom_of_unloaded hc hread'
    | ok c =>
      generalize hbegin : ({ s with config := some c } : Session) = u
      have hfirst : s.step (.snapshot (.load data)) = u.rebuild x :=
        hbegin ▸ loadFrom_of_ok hc hread
      have hsecond : (u.rebuild x).1.step (.snapshot (.load data')) =
          ({ (u.rebuild x).1 with config := some c } : Session).rebuild y := by
        subst hbegin
        exact loadFrom_of_ok (configuration_of_kept rfl) hread'
      obtain ⟨ds, ds', hchain, hchain', hsame⟩ := rebuild_twice u (some c) halike
      rw [LoadsAlike, hfirst, hsecond]
      exact Or.inr ⟨_, _, ds, ds', rfl, rfl, hchain, hchain', hsame⟩

/-- Data that leads outward to no value twice is loaded like all data that it is edited into: with
other unknown keys, keys in another order and defaults that are written out or left out, in any of
its scopes and variables.  If it is loaded, the variables of any scope can be in another order
too, where their names are distinct. -/
theorem load_ignores (reachable : s.Reachable) (once : ¬ Circles s.heap data) :
    (∀ data', ScopeEdit s.heap (VariablesEdit s.heap) data data' → s.LoadsAlike data data') ∧
      ((∃ b, (s.step (.snapshot (.load data))).2.answer = .ok (.scope b)) →
        ∀ data', ScopeEdit s.heap (VariablesShuffle s.heap) data data' →
          s.LoadsAlike data data') := by
  have hproper := reachable.proper.heap
  obtain ⟨n, nests⟩ := exists_nests once
  refine ⟨fun data' edit => loadsAlike_of_read ?_, fun ⟨b, hb⟩ data' edit => loadsAlike_of_read ?_⟩
  · have hsame : Snapshot.ofValue s.heap s.snapshots data =
        Snapshot.ofValue s.heap s.snapshots data' := Snapshot.checkScope_of_edit hproper edit nests
    cases hread : Snapshot.ofValue s.heap s.snapshots data with
    | error faults => exact Or.inl ⟨faults, rfl, hsame.symm.trans hread⟩
    | ok x =>
      exact Or.inr ⟨x, x, rfl, hsame.symm.trans hread,
        List.forall₂_same.mpr fun _ _ => ⟨rfl, rfl⟩⟩
  · rcases loadFrom_cases s s.heap data with ⟨c, x, hread, -⟩ | ⟨e, heq⟩
    · obtain ⟨y, hread', halike⟩ := Snapshot.checkScope_of_shuffle hproper edit nests hread
      exact Or.inr ⟨x, y, hread, hread', halike⟩
    · rw [show s.step (.snapshot (.load data)) = _ from heq] at hb
      cases hb

/-- A session with data of two scopes, and with the same data in other words: keys are in another
order, some are unknown, the values that are defaults are written out, and the two variables are in
another order.  At the end, two dicts that describe no scope. -/
def reworded : Session := (start ⟨[], none⟩).afterAll [
  .make (.dict [(.text "unit", .text "m")]),
  .make (.dict [(.text "name", .text "x"), (.text "value", .int 1), (.text "meta", .container 0)]),
  .make (.dict [(.text "name", .text "y")]),
  .make (.list [.container 1, .container 2]),
  .make (.dict [(.text "depth", .int 0), (.text "is_global", .bool true)]),
  .make (.dict [(.text "depth", .int 1), (.text "is_global", .bool false),
    (.text "variables", .container 3), (.text "parent", .container 4)]),
  .make (.dict [(.text "meta", .container 0), (.text "value", .int 1), (.text "name", .text "x"),
    (.int 7, .null)]),
  .make (.dict [(.text "name", .text "y"), (.text "value", .null)]),
  .make (.list [.container 7, .container 6]),
  .make (.list []),
  .make (.dict [(.text "is_global", .bool true), (.text "depth", .int 0), (.text "parent", .null),
    (.text "variables", .container 9)]),
  .make (.dict [(.text "parent", .container 10), (.text "variables", .container 8),
    (.text "is_global", .bool false), (.text "depth", .int 1), (.text "note", .text "moved")]),
  .make (.dict [(.text "is_global", .bool true)]),
  .make (.dict [(.text "is_global", .bool true), (.text "parent", .null)])]

/-- The two scopes are loaded alike, and the two dicts are refused alike. -/
theorem reworded_alike :
    (∃ b, (reworded.step (.snapshot (.load (.container 5)))).2.answer = .ok (.scope b)) ∧
      reworded.LoadsAlike (.container 5) (.container 11) ∧
      reworded.LoadsAlike (.container 12) (.container 13) := by
  have hreachable : reworded.Reachable := ⟨_, _, rfl⟩
  have honce : ¬ Circles reworded.heap (.container 5) := by
    have hnests : Nests reworded.heap (.container 5) 2 :=
      .inside rfl rfl (fun h => nomatch h) (.last rfl fun p hp => nomatch hp)
    exact hnests.not_circles
  have honce' : ¬ Circles reworded.heap (.container 12) := by
    have hnests : Nests reworded.heap (.container 12) 1 := .last rfl fun p hp => nomatch hp
    exact hnests.not_circles
  -- Every dict of the second data is one of the first with items in front, and then in reverse.
  have hturned : ∀ {ignored : Key × Value → Prop} {edited : Key → Value → Value → Prop}
      {kept : Metadata} (extra kept' : Metadata), (∀ p ∈ extra, ignored p) →
      List.Forall₂ (fun p p' => p.1 = p'.1 ∧ edited p.1 p.2 p'.2) kept kept' →
      DictEdit ignored edited kept (extra ++ kept').reverse := fun extra kept' ignore edits => by
    have horder : ∀ kept : Metadata, kept.Perm ([] ++ kept) := .refl
    exact .intro (horder _) (List.reverse_perm _) (fun p hp => nomatch hp) ignore edits
  have hx : VariableEdit reworded.heap (.container 1) (.container 6) := by
    refine .dict rfl rfl (hturned [(.int 7, .null)] _ ?_
      (List.forall₂_same.mpr fun _ _ => ⟨rfl, rfl⟩))
    simp [VariableIgnores, Key.Unknown]
  have hy : VariableEdit reworded.heap (.container 2) (.container 7) := by
    refine .dict rfl rfl (hturned [(.text "value", .null)] _ ?_
      (List.forall₂_same.mpr fun _ _ => ⟨rfl, rfl⟩))
    simp [VariableIgnores]
  have hbound : VariablesShuffle reworded.heap (.container 3) (.container 8) := by
    have hitems : reworded.heap.items? (.container 3) = some [.container 1, .container 2] := rfl
    refine .order hitems rfl (.swap _ _ _) (.cons hy (.cons hx .nil)) ?_
    refine List.pairwise_pair.mpr fun name hname hname' => ?_
    obtain ⟨_, ⟨⟩, _, ⟨⟩, ⟨⟩⟩ := hname
    obtain ⟨_, ⟨⟩, _, ⟨⟩, hsame⟩ := hname'
    exact absurd (Except.ok.inj hsame) (by decide)
  have houter : ScopeEdit reworded.heap (VariablesShuffle reworded.heap)
      (.container 4) (.container 10) := by
    refine .dict rfl rfl (hturned [(.text "variables", .container 9), (.text "parent", .null)] _ ?_
      (List.forall₂_same.mpr fun _ _ => ⟨rfl, Or.inl rfl⟩)) (.same .null)
    rintro p (_ | ⟨_, _ | ⟨_, ⟨⟩⟩⟩)
    · exact Or.inr (Or.inl ⟨rfl, rfl⟩)
    · exact Or.inr (Or.inr ⟨rfl, rfl⟩)
  have hedit : ScopeEdit reworded.heap (VariablesShuffle reworded.heap)
      (.container 5) (.container 11) := by
    refine .dict rfl rfl (hturned [(.text "note", .text "moved")] [(.text "depth", .int 1),
      (.text "is_global", .bool false), (.text "variables", .container 8),
      (.text "parent", .container 10)] ?_ ?_) houter
    · simp [ScopeIgnores, Key.Unknown]
    · exact .cons ⟨rfl, Or.inl rfl⟩ (.cons ⟨rfl, Or.inl rfl⟩ (.cons
        ⟨rfl, Or.inr (Or.inl ⟨rfl, hbound⟩)⟩ (.cons ⟨rfl, Or.inr (Or.inr ⟨rfl, rfl, rfl⟩)⟩ .nil)))
  have hrefused : ScopeEdit reworded.heap (VariablesEdit reworded.heap)
      (.container 12) (.container 13) := by
    refine .dict rfl rfl (hturned [(.text "parent", .null)] _ ?_
      (List.forall₂_same.mpr fun _ _ => ⟨rfl, Or.inl rfl⟩)) (.same .null)
    rintro p (_ | ⟨_, ⟨⟩⟩)
    exact Or.inr (Or.inr ⟨rfl, rfl⟩)
  have haccepted : ∃ b, (reworded.step (.snapshot (.load (.container 5)))).2.answer =
      .ok (.scope b) := ⟨_, rfl⟩
  exact ⟨haccepted, (load_ignores hreachable honce).2 haccepted _ hedit,
    (load_ignores hreachable honce').1 _ hrefused⟩

end Session
end ScopeChain
