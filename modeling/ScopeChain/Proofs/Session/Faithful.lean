/-
A chain comes back from its text as it was.

If all that a chain holds spells out trees, then what is written of it is that, and the chain
that is read from its text holds variables of the same names that spell out the same.
-/
import ScopeChain.Proofs.Session.Reach
import ScopeChain.Proofs.Session.RoundTrip

namespace ScopeChain

namespace Entry

/-- Whether variables of two heaps are equal: of one name, with values and metadata that
spell out the same. -/
def Alike (h h' : Heap) (e e' : Entry) : Prop := ∃ w, e.Spells h w ∧ e'.Spells h' w

theorem Spells.sound {h : Heap} (proper : h.Proper) {e : Entry} (distinct : e.Distinct)
    {w : Written} (spelled : e.Spells h w) : w.Sound := by
  obtain ⟨-, hvalue, hmetadata⟩ := spelled
  refine ⟨⟨Heap.distinct_of_spells proper hvalue, Heap.noDouble_of_spells hvalue⟩, ?_⟩
  intro ms hms
  rw [Option.mem_def.mp hms] at hmetadata
  generalize hm : e.metadata = metadata at hmetadata
  cases hmetadata with
  | some hspelled =>
    have hdistinct := Heap.nodup_of_spellsMembers (distinct _ hm) hspelled
    exact ⟨⟨hdistinct, Heap.distinct_of_spellsMembers proper hspelled⟩,
      trivial, Heap.noDouble_of_spellsMembers hspelled⟩

theorem Spells.steady {h : Heap} {e : Entry} {w : Written} (spelled : e.Spells h w) :
    e.Steady h := by
  obtain ⟨-, hvalue, hmetadata⟩ := spelled
  refine ⟨Heap.steady_of_spells hvalue, fun m hm p hp => ?_⟩
  rw [Option.mem_def.mp hm] at hmetadata
  generalize w.metadata = members at hmetadata
  cases hmetadata with
  | some hspelled =>
    obtain ⟨member, -, -, hmember⟩ :=
      Listwise.exists_right (Heap.spellsMembers_iff.mp hspelled) hp
    exact Heap.steady_of_spells hmember

end Entry

namespace Session

theorem Serializes.eq_of_spells {s : Session} {b : ScopeId} {c : Config} {snapshot : Snapshot}
    {wss uss : List (List Written)} (serializes : s.Serializes b c snapshot uss)
    (sound : ∀ ws ∈ wss, ∀ w ∈ ws, w.Sound) (spelled : s.SpellsChain b wss) : uss = wss := by
  obtain ⟨found, hfound, hframes⟩ := capture_of_spells sound spelled
  rw [serializes.captured] at hfound
  cases hfound
  exact Snapshot.eq_of_isWrittenChain hframes sound serializes.written

/-- The text of a chain that holds nothing but data with texts for keys is read in every
session of the same configuration, as a chain of as many scopes that holds, level by level,
what the chain held. -/
theorem deserialize_serialize {s s' : Session} {b : ScopeId} {text : String}
    (reachable : s.Reachable)
    (spelled : ∀ c ∈ s.forest.chain b, ∀ e ∈ (s.forest.locals c).entries,
      ∃ w, e.Spells s.heap w)
    (written : (s.step (.snapshot (.serialize b))).2.answer = .ok (.text text))
    (same : s'.configuration = s.configuration) :
    ∃ b' t, s'.step (.snapshot (.deserialize text)) =
        (t, ⟨.ok (.scope b'), [.restored (s.forest.chain b).length]⟩) ∧
      List.Forall₂ (fun c c' => List.Forall₂ (Entry.Alike s.heap t.heap)
          (s.forest.locals c).entries (t.forest.locals c').entries)
        (s.forest.chain b) (t.forest.chain b') := by
  have hproper := reachable.proper
  obtain ⟨wss, hspelled⟩ : ∃ wss, s.SpellsChain b wss :=
    Listwise.exists_partners fun c hc => Listwise.exists_partners (spelled c hc)
  have hsound : ∀ ws ∈ wss, ∀ w ∈ ws, w.Sound := by
    intro ws hws w hw
    obtain ⟨c, -, hall⟩ := Listwise.exists_left hspelled hws
    obtain ⟨e, he, hew⟩ := Listwise.exists_left hall hw
    exact hew.sound hproper.heap (hproper.scopes c e he)
  have hsteady : s.SteadyChain b := by
    intro c hc e he
    obtain ⟨w, hw⟩ := spelled c hc e he
    exact hw.steady
  obtain ⟨c, snapshot, uss, serializes, rfl⟩ := serialize_eq_ok.mp written
  have heq := serializes.eq_of_spells hsound hspelled
  subst heq
  obtain ⟨b', t, hstep, -, -, hback⟩ := deserialize_readable
    (same.trans serializes.configured) (serializes.readable hsteady)
  refine ⟨b', t, by rw [hstep, hspelled.length_eq], ?_⟩
  refine Listwise.comp hspelled hback.flip fun d _ ws _ d' _ hws hws' => ?_
  exact Listwise.comp hws (List.Forall₂.flip hws') fun e _ w _ e' _ hew hew' => ⟨w, hew, hew'⟩

def quoted : Session := (start ⟨[], none⟩).afterAll [
  .make (.list [.int 1, .bool true, .text "é"]), .op (.scope (.create none)),
  .op (.scope (.set 0 "\"" (.container 0) (some []))),
  .op (.scope (.child 0)), .op (.scope (.set 1 "\n" .null none))]

theorem deserialize_serialize_quoted :
    ∃ b' t, quoted.step (.snapshot (.deserialize (Written.chainTree [[⟨"\n", .null, none⟩],
          [⟨"\"", .array [.int 1, .bool true, .text "é"], some []⟩]]).render)) =
        (t, ⟨.ok (.scope b'), [.restored (quoted.forest.chain 1).length]⟩) ∧
      List.Forall₂ (fun c c' => List.Forall₂ (Entry.Alike quoted.heap t.heap)
          (quoted.forest.locals c).entries (t.forest.locals c').entries)
        (quoted.forest.chain 1) (t.forest.chain b') := by
  have hchain : quoted.forest.chain 1 = [1, 0] := by decide +kernel
  have hspelled : ∀ c ∈ quoted.forest.chain 1, ∀ e ∈ (quoted.forest.locals c).entries,
      ∃ w, e.Spells quoted.heap w := by
    rw [hchain]
    intro c hc e he
    rcases List.mem_pair.mp hc with rfl | rfl
    · obtain rfl : e = ⟨"\n", .null, none⟩ := List.mem_singleton.mp he
      exact ⟨⟨"\n", .null, none⟩, rfl, rfl, .none⟩
    · obtain rfl : e = ⟨"\"", .container 0, some []⟩ := List.mem_singleton.mp he
      exact ⟨⟨"\"", .array [.int 1, .bool true, .text "é"], some []⟩, rfl,
        ⟨0, _, rfl, rfl, rfl, rfl, rfl, trivial⟩, .some trivial⟩
  exact deserialize_serialize ⟨_, _, rfl⟩ hspelled (by with_unfolding_all rfl) rfl

end Session
end ScopeChain
