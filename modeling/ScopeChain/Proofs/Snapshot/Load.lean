/-
Reading a snapshot from what is written of a chain.

Values that denote the tree of a chain are read as frames that denote its variables, with the
shape of a chain, if there is room for its scopes.  A scope that denotes a tree is not among the
scopes that it is read in, since these denote larger ones.
-/
import ScopeChain.Proofs.Snapshot.Capture
import ScopeChain.Snapshot.Check

namespace ScopeChain
namespace Snapshot

open Json (Every NamesDistinct)

/-! ## Variables -/

theorem denotesMembers_cons {h : Heap} {entries : Metadata} {name : String} {j : Json}
    {members : List (String × Json)} (denoted : h.DenotesMembers entries ((name, j) :: members)) :
    ∃ v rest, entries = (.text name, v) :: rest ∧ h.Denotes v j ∧
      h.DenotesMembers rest members := by
  cases entries with
  | nil => exact denoted.elim
  | cons e rest =>
    obtain ⟨key, v⟩ := e
    obtain ⟨rfl, hvalue, hrest⟩ := denoted
    exact ⟨v, rest, rfl, hvalue, hrest⟩

theorem denotesMembers_three {h : Heap} {entries : Metadata} {n₁ n₂ n₃ : String}
    {j₁ j₂ j₃ : Json} (denoted : h.DenotesMembers entries [(n₁, j₁), (n₂, j₂), (n₃, j₃)]) :
    ∃ v₁ v₂ v₃, entries = [(.text n₁, v₁), (.text n₂, v₂), (.text n₃, v₃)] ∧
      h.Denotes v₁ j₁ ∧ h.Denotes v₂ j₂ ∧ h.Denotes v₃ j₃ := by
  obtain ⟨v₁, rest, rfl, h₁, denoted⟩ := denotesMembers_cons denoted
  obtain ⟨v₂, rest, rfl, h₂, denoted⟩ := denotesMembers_cons denoted
  obtain ⟨v₃, rest, rfl, h₃, denoted⟩ := denotesMembers_cons denoted
  cases rest with
  | nil => exact ⟨v₁, v₂, v₃, rfl, h₁, h₂, h₃⟩
  | cons e rest => exact denoted.elim

theorem plain_of_denotesMembers {h : Heap} {metadata : Metadata} {members : List (String × Json)}
    (denoted : h.DenotesMembers metadata members) (names : (members.map Prod.fst).Nodup) :
    KeysText metadata ∧ KeysDistinct metadata := by
  have hkeys := Heap.keys_of_denotesMembers denoted
  refine ⟨fun p hp => ?_, (keysDistinct_iff_nodup ?_).mpr names⟩
  · have hmem : p.1 ∈ members.map fun m => Key.text m.1 := by
      rw [← hkeys]
      exact List.mem_map_of_mem hp
    obtain ⟨m, -, hm⟩ := List.mem_map.mp hmem
    exact ⟨m.1, hm.symm⟩
  · rw [hkeys, List.map_map]
    rfl

theorem checkEntry_of_denotes {heap : Heap} {v : Value} {w : Written} (distinct : w.Distinct)
    (denoted : heap.Denotes v w.tree) :
    ∃ e, checkEntry heap v = .ok e ∧ e.Denotes heap w := by
  obtain ⟨id, entries, rfl, found, hmembers⟩ := denoted
  obtain ⟨nameValue, value, metaValue, rfl, hname, hvalue, hmeta⟩ := denotesMembers_three hmembers
  have hdict : heap.dict? (.container id) = some [(.text "name", nameValue),
      (.text "value", value), (.text "meta", metaValue)] := by
    simp only [Heap.dict?, found]
  rw [checkEntry, hdict]
  obtain ⟨name, tree, metadata⟩ := w
  cases hname
  cases metadata with
  | none =>
    cases hmeta
    refine ⟨⟨name, value, none⟩, ?_, rfl, hvalue, .none⟩
    simp [checkEntryFields, checkRequired, checkOptionalMetadata, fieldOf, Key.same_text,
      Coerce.text, Checked.ofCoercion, Checked.inside]
  | some ms =>
    obtain ⟨mid, mentries, rfl, mfound, hms⟩ := hmeta
    obtain ⟨htexts, hdistinct⟩ := plain_of_denotesMembers hms (distinct ms rfl)
    have hchecked := checkMetadata_of_text htexts hdistinct
    refine ⟨⟨name, value, some mentries⟩, ?_, rfl, hvalue, .some hms⟩
    simp [checkEntryFields, checkRequired, checkOptionalMetadata, fieldOf, Key.same_text,
      Coerce.text, Checked.ofCoercion, Checked.inside, Heap.dict?, mfound, hchecked]

theorem checkEntriesFrom_of_denotes {heap : Heap} {values : List Value} {ws : List Written}
    (distinct : ∀ w ∈ ws, w.Distinct)
    (denoted : List.Forall₂ (fun v w => heap.Denotes v (Written.tree w)) values ws) (i : Nat) :
    ∃ es, checkEntriesFrom heap i values = .ok es ∧
      List.Forall₂ (Entry.Denotes heap) es ws := by
  induction denoted generalizing i with
  | nil => exact ⟨[], rfl, .nil⟩
  | @cons v w values ws hv _ ih =>
    obtain ⟨e, he, hew⟩ := checkEntry_of_denotes (distinct w List.mem_cons_self) hv
    obtain ⟨es, hes, hall⟩ := ih (fun u hu => distinct u (List.mem_cons_of_mem _ hu)) (i + 1)
    refine ⟨e :: es, ?_, .cons hew hall⟩
    rw [checkEntriesFrom, he, hes]
    rfl

/-! ## Scopes -/

theorem denotesMembers_four {h : Heap} {entries : Metadata} {n₁ n₂ n₃ n₄ : String}
    {j₁ j₂ j₃ j₄ : Json}
    (denoted : h.DenotesMembers entries [(n₁, j₁), (n₂, j₂), (n₃, j₃), (n₄, j₄)]) :
    ∃ v₁ v₂ v₃ v₄,
      entries = [(.text n₁, v₁), (.text n₂, v₂), (.text n₃, v₃), (.text n₄, v₄)] ∧
      h.Denotes v₁ j₁ ∧ h.Denotes v₂ j₂ ∧ h.Denotes v₃ j₃ ∧ h.Denotes v₄ j₄ := by
  obtain ⟨v₁, rest, rfl, h₁, denoted⟩ := denotesMembers_cons denoted
  obtain ⟨v₂, v₃, v₄, rfl, h₂, h₃, h₄⟩ := denotesMembers_three denoted
  exact ⟨v₁, v₂, v₃, v₄, rfl, h₁, h₂, h₃, h₄⟩

def DenoteFrames (heap : Heap) (frames : List Frame) (wss : List (List Written)) : Prop :=
  List.Forall₂ (fun frame ws => List.Forall₂ (Entry.Denotes heap) frame.entries ws) frames wss

/-- The fields of a scope are read from the tree that is written of it, if its parent is. -/
theorem checkFields_of_denotes {heap : Heap} (read : Value → Checked Snapshot)
    {entries : Metadata} {ws : List Written} {outer : List (List Written)}
    (distinct : ∀ w ∈ ws, w.Distinct)
    (denoted : heap.DenotesMembers entries [("depth", .int outer.length),
      ("is_global", .bool outer.isEmpty), ("variables", .array (ws.map Written.tree)),
      ("parent", Written.chainTree outer)])
    (parent : outer ≠ [] → ∀ v, heap.Denotes v (Written.chainTree outer) →
      ∃ s, read v = .ok s ∧ s.base = none ∧ Shaped s.frames ∧ DenoteFrames heap s.frames outer) :
    ∃ s, checkFields heap read entries = .ok s ∧ s.base = none ∧ Shaped s.frames ∧
      DenoteFrames heap s.frames (ws :: outer) := by
  obtain ⟨depthValue, globalValue, listValue, parentValue, rfl, hdepth, hglobal, hlist, hparent⟩ :=
    denotesMembers_four denoted
  cases hdepth
  cases hglobal
  obtain ⟨id, values, rfl, found, hitems⟩ := hlist
  have hvalues : List.Forall₂ (fun v w => heap.Denotes v (Written.tree w)) values ws :=
    List.forall₂_map_right_iff.mp (Heap.denotesItems_iff.mp hitems)
  obtain ⟨es, hes, hall⟩ := checkEntriesFrom_of_denotes distinct hvalues 0
  -- Each field is read on its own, and the parent decides about the shape.
  generalize hfields : [(Key.text "depth", Value.int outer.length),
    (Key.text "is_global", Value.bool outer.isEmpty), (Key.text "variables", Value.container id),
    (Key.text "parent", parentValue)] = fields
  have hdepth : checkDepth fields = .ok outer.length := by
    have hnat : ¬ ((outer.length : Int) < 0) := by omega
    rw [← hfields]
    simp [hnat, checkDepth, checkRequired, fieldOf, Key.same_text, Coerce.integerFrom,
      Coerce.integer, Checked.ofCoercion, Checked.inside]
  have hglobal : checkRequired Coerce.boolean fields "is_global" = .ok outer.isEmpty := by
    rw [← hfields]
    simp [checkRequired, fieldOf, Key.same_text, Coerce.boolean, Checked.ofCoercion,
      Checked.inside]
  have hbound : checkEntries heap fields = .ok es := by
    rw [← hfields]
    simp [checkEntries, fieldOf, Key.same_text, listItems?, Heap.items?, found, hes,
      Checked.inside]
  have hfield : fieldOf fields "parent" = some parentValue := by
    rw [← hfields]
    simp [fieldOf, Key.same_text]
  cases outer with
  | nil =>
    cases hparent
    have hnone : checkParent read fields = .ok none := by
      rw [checkParent, hfield]
      rfl
    refine ⟨⟨⟨0, true, es⟩, [], none⟩, ?_, rfl, ⟨rfl, rfl, trivial⟩, .cons hall .nil⟩
    rw [checkFields, hdepth, hglobal, hbound, hnone]
    rfl
  | cons us outer =>
    obtain ⟨pid, pentries, rfl, pfound, pmembers⟩ := hparent
    obtain ⟨s, hs, hbase, hshaped, hdenoted⟩ := parent (by simp) _
      ⟨pid, pentries, rfl, pfound, pmembers⟩
    have hsome : checkParent read fields = .ok (some s) := by
      rw [checkParent, hfield]
      simp only [hs]
      rfl
    have hlength : s.outer.length = outer.length := by
      have := hdenoted.length_eq
      simpa [frames] using this
    have hfirst : s.first.depth = outer.length := hshaped.1.trans hlength
    refine ⟨⟨⟨outer.length + 1, false, es⟩, s.frames, s.base⟩, ?_, hbase, ⟨?_, rfl, hshaped⟩,
      .cons hall hdenoted⟩
    · rw [checkFields, hdepth, hglobal, hbound, hsome]
      simp [checkShape, hfirst]
    · exact (hdenoted.length_eq).symm

/-- The snapshot of a chain is read from the tree that is written of it, inside scopes that
denote larger trees. -/
theorem checkScope_of_denotes {heap : Heap} (snapshots : Array Snapshot) {room : Nat}
    {seen : List ContainerId} {v : Value} {wss : List (List Written)} (some : wss ≠ [])
    (distinct : ∀ ws ∈ wss, ∀ w ∈ ws, w.Distinct) (enough : wss.length ≤ room)
    (inside : ∀ id ∈ seen, ∃ k, heap.Denotes (.container id) k ∧
      (Written.chainTree wss).levels < k.levels)
    (denoted : heap.Denotes v (Written.chainTree wss)) :
    ∃ s, checkScope heap snapshots room seen v = .ok s ∧ s.base = none ∧ Shaped s.frames ∧
      DenoteFrames heap s.frames wss := by
  induction wss generalizing room seen v with
  | nil => exact absurd rfl some
  | cons ws outer ih =>
    cases room with
    | zero => exact absurd enough (by simp)
    | succ room =>
      have hwhole := denoted
      obtain ⟨id, entries, rfl, found, hmembers⟩ := denoted
      have hseen : id ∉ seen := by
        intro hmem
        obtain ⟨k, hk, hlt⟩ := inside id hmem
        rw [Heap.denotes_unique hwhole hk] at hlt
        exact Nat.lt_irrefl _ hlt
      have hdict := show heap.dict? (.container id) = Option.some entries by
        simp only [Heap.dict?, found]
      have hlt := Written.levels_chainTree_lt ws outer
      have hparent : outer ≠ [] → ∀ u, heap.Denotes u (Written.chainTree outer) →
          ∃ s, checkScope heap snapshots room (id :: seen) u = .ok s ∧ s.base = none ∧
            Shaped s.frames ∧ DenoteFrames heap s.frames outer := by
        intro hsome u hu
        refine ih hsome (fun us hus => distinct us (List.mem_cons_of_mem _ hus))
          (by simpa using enough) (fun c hc => ?_) hu
        rcases List.mem_cons.mp hc with rfl | hc
        · exact ⟨_, hwhole, hlt⟩
        · obtain ⟨k, hk, hk'⟩ := inside c hc
          exact ⟨k, hk, Nat.lt_trans hlt hk'⟩
      obtain ⟨s, hs, hrest⟩ := checkFields_of_denotes (checkScope heap snapshots room (id :: seen))
        (distinct ws List.mem_cons_self) hmembers hparent
      refine ⟨s, ?_, hrest⟩
      simp only [checkScope, List.contains_iff_mem, hseen, if_false, hdict, hs]

end Snapshot
end ScopeChain
