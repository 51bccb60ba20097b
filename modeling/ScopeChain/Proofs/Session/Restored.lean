/-
A restored chain behaves as the chain it was captured from.

Right after a chain was captured and restored, each scope of the new chain has the variables
of the scope at its place in the old one, with their metadata.  So the chains are paired, and
no run of operations on the one can be told from the run of their images on the other.
-/
import ScopeChain.Proofs.Scope.Partner
import ScopeChain.Proofs.Session.Reach
import ScopeChain.Proofs.Session.Twins

namespace ScopeChain
namespace Session

variable {s : Session} {c : Config} {b : ScopeId}

/-- A chain whose metadata has distinct texts for keys is captured with the variables of its
scopes, and restored as new scopes that hold them. -/
theorem restore_capture_of_plain (kept : s.config = some c) (present : b < s.forest.size)
    (shallow : s.forest.depth b ≤ c.maxSnapshotDepth)
    (plain : ∀ d ∈ s.forest.chain b, ∀ e ∈ (s.forest.locals d).entries, e.Plain) :
    ∃ id s₁ b' s₂,
      s.step (.snapshot (.capture b)) =
        (s₁, ⟨.ok (.snapshot id), [.captured (s.forest.chain b).length]⟩) ∧
      s₁.step (.snapshot (.restore id)) =
        (s₂, ⟨.ok (.scope b'), [.restored (s.forest.chain b).length]⟩) ∧
      s₂.config = some c ∧ s.forest.Within s₂.forest ∧ b' < s₂.forest.size ∧
      List.Forall₂ (fun d d' => s₂.forest.locals d' = s₂.forest.locals d)
        (s₂.forest.chain b) (s₂.forest.chain b') := by
  obtain ⟨snapshot, hsnapshot, hentries⟩ := Snapshot.capture_of_plain plain
  have hlength : snapshot.scopeCount = (s.forest.chain b).length := hentries.length_eq.symm
  have hrebuilt := Snapshot.rebuilt_restore s.forest snapshot
  have hmem : (snapshot.restore s.forest).1 ∈
      Snapshot.newScopes s.forest.size snapshot.frames.length :=
    List.mem_of_mem_head? hrebuilt.first.symm
  have hchain := hrebuilt.chain _ rfl
  refine ⟨s.snapshots.size, { s with snapshots := s.snapshots.push snapshot },
    (snapshot.restore s.forest).1,
    { s with
      snapshots := s.snapshots.push snapshot
      forest := (snapshot.restore s.forest).2 }, ?_, ?_, kept, hrebuilt.within, ?_, ?_⟩
  · show s.snapshotStep (.capture b) = _
    rw [snapshotStep, if_pos present, withCapture, withConfig_of_kept kept]
    simp only [if_neg (Nat.not_lt.mpr shallow), hsnapshot, addSnapshot, hlength]
  · show Session.snapshotStep _ (.restore s.snapshots.size) = _
    rw [snapshotStep, withSnapshot]
    simp only [Array.getElem?_push_size]
    rw [withConfig_of_kept (s := { s with snapshots := s.snapshots.push snapshot }) kept]
    simp only [rebuild, hlength]
  · show (snapshot.restore s.forest).1 < (snapshot.restore s.forest).2.size
    rw [hrebuilt.size]
    exact (Snapshot.mem_newScopes.mp hmem).2
  · show List.Forall₂ _ ((snapshot.restore s.forest).2.chain b)
      ((snapshot.restore s.forest).2.chain (snapshot.restore s.forest).1)
    rw [hchain, hrebuilt.within.toExtends.chain present]
    refine Listwise.comp hentries hrebuilt.locals.flip fun d hd frame _ d' _ hframe hlocals => ?_
    have hd' : d < s.forest.size := Nat.lt_of_le_of_lt (Forest.le_of_mem_chain hd) present
    show (snapshot.restore s.forest).2.locals d' = (snapshot.restore s.forest).2.locals d
    rw [show (snapshot.restore s.forest).2.locals d' = _ from hlocals, hframe,
      hrebuilt.within.locals d hd']
    exact Locals.ext (Locals.entries_ofEntries (s.forest.locals d).sorted)

/-- Whatever is done with a chain and the children made of it, the same done with the chain that
was captured of it and restored gives the same answers, but for the scopes themselves, the
same failures, records and snapshots. -/
theorem restored_behaves_alike (reachable : s.Reachable) (kept : s.config = some c)
    (present : b < s.forest.size) (shallow : s.forest.depth b ≤ c.maxSnapshotDepth)
    (texts : ∀ d ∈ s.forest.chain b, ∀ e ∈ (s.forest.locals d).entries, ∀ m ∈ e.metadata,
      KeysText m) :
    ∃ id s₁ b' s₂,
      s.step (.snapshot (.capture b)) =
        (s₁, ⟨.ok (.snapshot id), [.captured (s.forest.chain b).length]⟩) ∧
      s₁.step (.snapshot (.restore id)) =
        (s₂, ⟨.ok (.scope b'), [.restored (s.forest.chain b).length]⟩) ∧
      s₂.forest.chain b = s.forest.chain b ∧
      (s₂.forest.chain b').length = (s.forest.chain b).length ∧
      ∀ ops : List Op,
        (∀ op ∈ ops, op.On fun d => d ∈ s₂.forest.chain b ∨ s₂.forest.size ≤ d) →
        (s₂.run (ops.map (Op.image (partner (s₂.forest.chain b) (s₂.forest.chain b'))))).2 =
            (s₂.run ops).2.map
              (Outcome.image (partner (s₂.forest.chain b) (s₂.forest.chain b'))) ∧
          (s₂.run (ops.map (Op.image (partner (s₂.forest.chain b)
            (s₂.forest.chain b'))))).1.snapshots = (s₂.run ops).1.snapshots := by
  have hplain : ∀ d ∈ s.forest.chain b, ∀ e ∈ (s.forest.locals d).entries, e.Plain :=
    fun d hd e he m hm => ⟨texts d hd e he m hm, reachable.proper.scopes d e he m hm⟩
  obtain ⟨id, s₁, b', s₂, hcapture, hrestore, hkept, hwithin, hpresent, hall⟩ :=
    restore_capture_of_plain kept present shallow hplain
  have hchain := hwithin.toExtends.chain present
  refine ⟨id, s₁, b', s₂, hcapture, hrestore, hchain, ?_, fun ops on => ?_⟩
  · rw [← hchain, hall.length_eq]
  · have hpaired := Forest.paired_chains (Nat.lt_of_lt_of_le present hwithin.size) hpresent hall
    obtain ⟨htwins, houtcomes⟩ := twins_run ⟨⟨c, hkept⟩, rfl, hpaired⟩ on
    refine ⟨houtcomes, ?_⟩
    rw [htwins.same]

def nested : Session := (start ⟨[], none⟩).afterAll [
  .op (.scope (.create none)),
  .op (.scope (.set 0 "x" (.int 1) (some [(.text "unit", .text "m")]))), .op (.scope (.child 0))]

theorem nested_behaves_alike :
    ∃ id s₁ b' s₂,
      nested.step (.snapshot (.capture 1)) =
        (s₁, ⟨.ok (.snapshot id), [.captured (nested.forest.chain 1).length]⟩) ∧
      s₁.step (.snapshot (.restore id)) =
        (s₂, ⟨.ok (.scope b'), [.restored (nested.forest.chain 1).length]⟩) ∧
      (s₂.run ([.scope (.setGlobal 1 "y" .null), .scope (.metadata 1 "x"),
          .snapshot (.serialize 1)].map
            (Op.image (partner (s₂.forest.chain 1) (s₂.forest.chain b'))))).2 =
        (s₂.run [.scope (.setGlobal 1 "y" .null), .scope (.metadata 1 "x"),
          .snapshot (.serialize 1)]).2.map
            (Outcome.image (partner (s₂.forest.chain 1) (s₂.forest.chain b'))) := by
  have hchain : nested.forest.chain 1 = [1, 0] := by decide +kernel
  have htexts : ∀ d ∈ nested.forest.chain 1, ∀ e ∈ (nested.forest.locals d).entries,
      ∀ m ∈ e.metadata, KeysText m := by
    rw [hchain]
    intro d hd e he m hm
    rcases List.mem_pair.mp hd with rfl | rfl
    · cases he
    · obtain rfl : e = ⟨"x", .int 1, some [(.text "unit", .text "m")]⟩ :=
        List.mem_singleton.mp he
      cases hm
      intro p hp
      exact ⟨"unit", by rw [List.mem_singleton.mp hp]⟩
  obtain ⟨id, s₁, b', s₂, hcapture, hrestore, hsame, -, hruns⟩ :=
    restored_behaves_alike (s := nested) ⟨_, _, rfl⟩ rfl (by decide +kernel)
      (by decide +kernel) htexts
  refine ⟨id, s₁, b', s₂, hcapture, hrestore, (hruns _ fun op hop => ?_).1⟩
  have hin : 1 ∈ s₂.forest.chain 1 := by
    rw [hsame, hchain]
    exact List.mem_cons_self
  simp only [List.mem_cons, List.not_mem_nil, or_false] at hop
  rcases hop with rfl | rfl | rfl
  · exact Or.inl hin
  · exact Or.inl hin
  · exact Or.inl hin

end Session
end ScopeChain
