/-
What comes back of a value that was written.

A value that denotes the tree of another equals it exactly if that is lossless: where JSON has no
such value, another takes its place, and nothing tells that it did.  So it is with metadata, whose
keys have to be texts.
-/
import ScopeChain.Proofs.Snapshot.Regular
import ScopeChain.Proofs.Value.Equal

namespace ScopeChain

namespace Snapshot

variable {heap h' : Heap} {snapshots : Array Snapshot} {room : Nat} {path : List Node}
  {tree : Value → Except Refusal Json} {v w : Value} {j : Json}

theorem members_of_texts {entries : Metadata} {members : List (String × Json)}
    (texts : KeysText entries) (distinct : KeysDistinct entries)
    (h : memberTrees tree [] entries = .ok members) :
    List.Forall₂ (fun e m => e.1 = .text m.1 ∧ tree e.2 = .ok m.2) entries members := by
  have htrees := exists_tree_of_memberTrees h
  obtain ⟨others, hothers⟩ : ∃ others : List (String × Json),
      List.Forall₂ (fun e m => e.1 = .text m.1 ∧ tree e.2 = .ok m.2) entries others := by
    refine Listwise.exists_partners fun e he => ?_
    obtain ⟨s, hs⟩ := texts e he
    obtain ⟨j, hj⟩ := htrees e he
    exact ⟨(s, j), hs, hj⟩
  have hnames : (others.map Prod.fst).Nodup := by
    refine (keysDistinct_iff_nodup ?_).mp distinct
    rw [List.map_map]
    exact Listwise.map_eq hothers fun _ _ _ _ h => h.1
  rw [memberTrees_texts [] hothers hnames] at h
  cases h
  exact hothers

/-- A dict equals one that denotes its members exactly if its keys are texts and its values come
back. -/
theorem equalEntries_of_members {entries fs : Metadata} {members : List (String × Json)}
    (distinct : KeysDistinct entries) {checked : Metadata}
    (same : KeysText entries → checked = entries)
    (h : memberTrees tree [] checked = .ok members) (denoted : h'.DenotesMembers fs members)
    (returns : ∀ e ∈ entries, ∀ j w, tree e.2 = .ok j → h'.Denotes w j →
      (heap.Equal h' e.2 w ↔ heap.Lossless e.2)) :
    heap.EqualEntries h' entries fs ↔ KeysText entries ∧ ∀ e ∈ entries, heap.Lossless e.2 := by
  have htexts : KeysText fs := by
    intro f hf
    obtain ⟨m, -, hkey, -⟩ := Listwise.exists_right (Heap.denotesMembers_iff.mp denoted) hf
    exact ⟨m.1, hkey⟩
  refine Heap.equalEntries_iff distinct htexts fun texts => ?_
  rw [same texts] at h
  refine Listwise.comp (members_of_texts texts distinct h)
    (Heap.denotesMembers_iff.mp denoted).flip fun e he m _ f _ hem hfm => ?_
  exact ⟨hem.1.trans hfm.1.symm, returns e he m.2 f.2 hem.2 hfm.2⟩

theorem equal_scalar (h : scalarTree v = .ok j) (denoted : h'.Denotes w j) :
    heap.Equal h' v w ↔ heap.Native v := by
  cases v with
  | null =>
    cases h
    cases denoted
    exact iff_of_true (.data rfl rfl rfl) trivial
  | bool b =>
    cases h
    cases denoted
    exact iff_of_true (.data rfl rfl (by simp [Key.same, Key.number?, Key.Number.same])) trivial
  | int i =>
    cases h
    cases denoted
    exact iff_of_true (.data rfl rfl (by simp [Key.same, Key.number?, Key.Number.same])) trivial
  | float x =>
    cases h
    by_cases finite : x.isFinite = true
    · rw [if_pos finite] at denoted
      cases denoted
      exact iff_of_true (.data rfl rfl (Key.same_float_self finite)) finite
    · rw [if_neg finite] at denoted
      cases denoted
      refine iff_of_false (fun equal => ?_) finite
      have hsame := (Heap.equal_data_iff rfl rfl).mp equal
      simp [Key.same, Key.number?] at hsame
  | text s =>
    cases h
    cases denoted
    exact iff_of_true (.data rfl rfl (Key.same_text_iff.mpr rfl)) trivial
  | bytes bs =>
    simp only [scalarTree] at h
    split at h
    next =>
      cases h
      cases denoted
      refine iff_of_false (fun equal => ?_) id
      cases Key.same_text_iff.mp ((Heap.equal_data_iff rfl rfl).mp equal)
    next => cases h
  | container | object | scope | script | snapshot => cases h

theorem not_equal_snapshot {id : SnapshotId} (denoted : h'.Denotes w j) :
    ¬ heap.Equal h' (.snapshot id) w := by
  intro equal
  cases equal with
  | data left _ _ => cases left
  | handle =>
    cases j with
    | array | object =>
      obtain ⟨_, _, heq, -⟩ := denoted
      cases heq
    | null | bool | int | float | text => cases denoted
  | items left _ _ _ => cases left
  | dict left _ _ _ _ _ _ => cases left

/-- What denotes the tree of a value equals it exactly if the value is lossless. -/
theorem equal_iff_lossless (proper : heap.Proper) (h : valueTree heap snapshots room path v = .ok j)
    (denoted : h'.Denotes w j) : heap.Equal h' v w ↔ heap.Lossless v := by
  induction room generalizing path v w j with
  | zero => exact absurd h (valueTree_zero_ne_ok heap snapshots path v j)
  | succ room ih =>
    cases v with
    | container id =>
      obtain ⟨-, ⟨items, js, found, htrees, rfl⟩ | ⟨entries, members, found, htrees, rfl⟩⟩ :=
        valueTree_container_eq_ok.mp h
      · obtain ⟨id', items', rfl, found', hitems⟩ := denoted
        have hitems? : h'.items? (.container id') = some items' :=
          Heap.items?_eq_some.mpr ⟨id', rfl, Or.inl found'⟩
        rw [Heap.equal_items_iff found hitems?, Heap.lossless_items found]
        refine Listwise.forall₂_iff ?_
        exact Listwise.comp (itemTrees_eq_ok.mp htrees) (Heap.denotesItems_iff.mp hitems).flip
          fun u _ k _ u' _ hu hu' => ih hu hu'
      · obtain ⟨id', fs, rfl, found', hmembers⟩ := denoted
        have hdict? : h'.dict? (.container id') = some fs :=
          Heap.dict?_eq_some.mpr ⟨id', rfl, found'⟩
        rw [Heap.equal_dict_iff found hdict?, Heap.lossless_dict found]
        obtain ⟨_, heq, hget⟩ := Heap.dict?_eq_some.mp found
        exact equalEntries_of_members (proper _ _ hget) (fun _ => rfl) htrees hmembers
          fun e _ k u hk hu => ih hk hu
    | snapshot id =>
      refine iff_of_false (not_equal_snapshot denoted) fun lossless => ?_
      exact lossless _ (.self _)
    | null | bool | int | float | text | bytes | object | scope | script =>
      rw [valueTree_scalar rfl] at h
      rw [Heap.lossless_data (fun id => Value.noConfusion)]
      exact equal_scalar h denoted

end Snapshot

/-- Whether a variable came back as another: under its name, with an equal value exactly if the
value is lossless, and with equal metadata exactly if that has texts for keys and lossless
values. -/
structure Entry.Returned (h h' : Heap) (e e' : Entry) : Prop where
  name : e'.name = e.name
  value : h.Equal h' e.value e'.value ↔ h.Lossless e.value
  metadata : Option.Rel (h.EqualEntries h') e.metadata e'.metadata ↔
    ∀ m ∈ e.metadata, KeysText m ∧ ∀ p ∈ m, h.Lossless p.2

namespace Snapshot

variable {heap h' : Heap} {snapshots : Array Snapshot} {room : Nat} {path : List Node}

theorem returned_of_written (proper : heap.Proper) {e c e' : Entry} {w : Written}
    (distinct : ∀ m ∈ e.metadata, KeysDistinct m) (captured : captureEntry e = .ok c)
    (written : IsWritten (valueTree heap snapshots room path) c w) (denoted : e'.Denotes h' w) :
    e.Returned heap h' e' := by
  obtain ⟨hname, hvalue, -, -⟩ := captureEntry_ok captured
  obtain ⟨wname, htree, hmetadata⟩ := written
  obtain ⟨ename, hdenoted, hmembers⟩ := denoted
  refine ⟨ename.trans (wname.symm.trans hname),
    equal_iff_lossless proper (hvalue ▸ htree) hdenoted, ?_⟩
  obtain ⟨name, value, metadata⟩ := e
  obtain ⟨cname, cvalue, checked⟩ := c
  obtain ⟨name', value', metadata'⟩ := e'
  obtain ⟨_, _, members⟩ := w
  cases metadata with
  | none =>
    cases captured
    cases hmetadata
    cases hmembers
    exact iff_of_true .none fun _ h => nomatch h
  | some m =>
    have hchecked : ∃ m', checkMetadata m = .ok m' ∧ checked = some m' := by
      rw [captureEntry] at captured
      simp only at captured
      split at captured
      next m' hm' =>
        cases captured
        exact ⟨m', hm', rfl⟩
      next => cases captured
    obtain ⟨m', hm', rfl⟩ := hchecked
    cases hmetadata with
    | some hwritten =>
      cases hmembers with
      | some hread =>
        have hdistinct : KeysDistinct m := distinct m rfl
        have hsame : KeysText m → m' = m := fun texts =>
          Except.ok.inj (hm'.symm.trans (checkMetadata_of_text texts hdistinct))
        have hentries := equalEntries_of_members hdistinct hsame hwritten hread
          fun p _ j u hj hu => equal_iff_lossless proper hj hu
        constructor
        · rintro (hequal | _) _ ⟨⟩
          exact hentries.mp hequal
        · exact fun lossless => .some (hentries.mpr (lossless m rfl))

end Snapshot
end ScopeChain
