/-
The values that a checked snapshot takes.

Of the dicts and lists that describe scopes a snapshot takes only the values of variables and
those of their metadata.  The dicts and lists themselves stay with whoever passed them.
-/
import ScopeChain.Proofs.Snapshot.Checked
import ScopeChain.Proofs.Value.Copies

namespace ScopeChain

inductive Heap.InEntry (h : Heap) (fields : Metadata) (v : Value) : Prop where
  | value (found : fieldOf fields "value" = some v)
  | metadata {w : Value} {m : Metadata} {k : Key} (found : fieldOf fields "meta" = some w)
    (dict : h.dict? w = some m) (mem : (k, v) ∈ m)

/-- Whether a value is in a variable of the scope with these fields, or of one that encloses
it. -/
inductive Heap.InScope (h : Heap) : Metadata → Value → Prop where
  | entry {fields entry : Metadata} {list item v : Value} {items : List Value}
    (found : fieldOf fields "variables" = some list) (listed : h.items? list = some items)
    (mem : item ∈ items) (dict : h.dict? item = some entry) (inside : h.InEntry entry v) :
    InScope h fields v
  | parent {fields outer : Metadata} {parent v : Value}
    (found : fieldOf fields "parent" = some parent) (dict : h.dict? parent = some outer)
    (inside : InScope h outer v) : InScope h fields v

namespace Heap

variable {h : Heap} {fields : Metadata} {v w : Value}

theorem mem_of_fieldOf {name : String} (found : fieldOf fields name = some v) :
    ∃ k, (k, v) ∈ fields := by
  obtain ⟨⟨k, w⟩, hfound, rfl⟩ := Option.map_eq_some_iff.mp found
  exact ⟨k, List.mem_of_find?_eq_some hfound⟩

theorem InEntry.holds (inside : h.InEntry fields v) : ∃ k w, (k, w) ∈ fields ∧ h.Holds w v := by
  cases inside with
  | value found =>
    obtain ⟨k, hmem⟩ := mem_of_fieldOf found
    exact ⟨k, _, hmem, .self v⟩
  | metadata found dict mem =>
    obtain ⟨k, hmem⟩ := mem_of_fieldOf found
    exact ⟨k, _, hmem, .entry dict mem (.self v)⟩

theorem InScope.holds (inside : h.InScope fields v) : ∃ k w, (k, w) ∈ fields ∧ h.Holds w v := by
  induction inside with
  | entry found listed mem dict inside =>
    obtain ⟨k, hmem⟩ := mem_of_fieldOf found
    obtain ⟨k', w, hw, held⟩ := inside.holds
    exact ⟨k, _, hmem, .item listed mem (.entry dict hw held)⟩
  | parent found dict _ ih =>
    obtain ⟨k, hmem⟩ := mem_of_fieldOf found
    obtain ⟨k', w, hw, held⟩ := ih
    exact ⟨k, _, hmem, .entry dict hw held⟩

end Heap

namespace Snapshot

def values (s : Snapshot) : List Value :=
  s.frames.flatMap fun frame => frame.entries.flatMap Entry.values

theorem mem_values {s : Snapshot} {v : Value} :
    v ∈ s.values ↔ ∃ frame ∈ s.frames, ∃ e ∈ frame.entries, v ∈ e.values := by
  simp only [values, List.mem_flatMap]

variable {heap : Heap} {fields : Metadata} {v : Value}

theorem values_of_checkEntryFields {e : Entry} (h : checkEntryFields heap fields = .ok e)
    (mem : v ∈ e.values) : v = .null ∨ heap.InEntry fields v := by
  unfold checkEntryFields at h
  simp only at h
  split at h
  next name metadata _ hmetadata =>
    cases h
    rcases List.mem_cons.mp mem with rfl | mem
    · cases hvalue : fieldOf fields "value" with
      | none => exact Or.inl rfl
      | some v => exact Or.inr (.value hvalue)
    · rw [checkOptionalMetadata, Checked.inside_eq_ok] at hmetadata
      split at hmetadata
      next =>
        cases hmetadata
        exact absurd mem List.not_mem_nil
      next =>
        cases hmetadata
        exact absurd mem List.not_mem_nil
      next w _ hmeta =>
        split at hmetadata
        next => cases hmetadata
        next m hdict =>
          split at hmetadata
          next checked hm =>
            cases hmetadata
            obtain ⟨p, hp, rfl⟩ := List.mem_map.mp mem
            obtain ⟨-, -, hvalues⟩ := checkMetadata_ok hm
            obtain ⟨⟨k, w⟩, hq, rfl⟩ := hvalues p hp
            exact Or.inr (.metadata hmeta hdict hq)
          next => cases hmetadata
  next => cases h

theorem values_of_checkEntriesFrom {i : Nat} {items : List Value} {es : List Entry}
    (h : checkEntriesFrom heap i items = .ok es) {e : Entry} (he : e ∈ es) (mem : v ∈ e.values) :
    v = .null ∨ ∃ item ∈ items, ∃ entry, heap.dict? item = some entry ∧ heap.InEntry entry v := by
  induction items generalizing i es with
  | nil =>
    cases h
    exact absurd he List.not_mem_nil
  | cons item rest ih =>
    rw [checkEntriesFrom] at h
    split at h
    next d es hd hes =>
      cases h
      rw [Checked.inside_eq_ok, checkEntry] at hd
      rcases List.mem_cons.mp he with rfl | he
      · split at hd
        next entry hdict =>
          refine (values_of_checkEntryFields hd mem).imp_right fun inside => ?_
          exact ⟨item, List.mem_cons_self, entry, hdict, inside⟩
        next => cases hd
      · refine (ih hes he).imp_right ?_
        rintro ⟨other, hother, entry, hdict, inside⟩
        exact ⟨other, List.mem_cons_of_mem _ hother, entry, hdict, inside⟩
    next => cases h

def Takes (heap : Heap) (snapshots : Array Snapshot) (fields : Metadata) (v : Value) : Prop :=
  v = .null ∨ heap.InScope fields v ∨ ∃ t ∈ snapshots, v ∈ t.values

variable {snapshots : Array Snapshot}

theorem takes_of_checkEntries {bound : List Entry} (h : checkEntries heap fields = .ok bound)
    {e : Entry} (he : e ∈ bound) (mem : v ∈ e.values) : Takes heap snapshots fields v := by
  rw [checkEntries, Checked.inside_eq_ok] at h
  split at h
  next =>
    cases h
    exact absurd he List.not_mem_nil
  next list hlist =>
    split at h
    next items hitems =>
      rcases values_of_checkEntriesFrom h he mem with hnull | ⟨item, hitem, entry, hdict, inside⟩
      · exact Or.inl hnull
      · cases list with
        -- The items of a snapshot are texts, and so none is a variable.
        | snapshot id =>
          cases hitems
          simp only [List.map_cons, List.map_nil, List.mem_cons, List.not_mem_nil, or_false] at hitem
          rcases hitem with rfl | rfl | rfl | rfl <;> cases hdict
        | _ => exact Or.inr (Or.inl (.entry hlist hitems hitem hdict inside))
    next => cases h

theorem takes_of_checkFields {read : Value → Checked Snapshot} {s : Snapshot}
    (inside : ∀ {u t}, read u = .ok t → v ∈ t.values →
      (∃ outer, heap.dict? u = some outer ∧ Takes heap snapshots outer v) ∨
        ∃ t ∈ snapshots, v ∈ t.values)
    (h : checkFields heap read fields = .ok s) (mem : v ∈ s.values) :
    Takes heap snapshots fields v := by
  obtain ⟨depth, isGlobal, bound, parent, -, -, hbound, hparent, hshape⟩ := checkFields_eq_ok.mp h
  obtain ⟨-, -, rfl⟩ := checkShape_eq_ok.mp hshape
  obtain ⟨frame, hframe, e, he, hv⟩ := mem_values.mp mem
  rcases List.mem_cons.mp hframe with rfl | hframe
  · exact takes_of_checkEntries hbound he hv
  · cases parent with
    | none => exact absurd hframe List.not_mem_nil
    | some t =>
      rw [checkParent, Checked.inside_eq_ok] at hparent
      split at hparent
      next => cases hparent
      next => cases hparent
      next u _ hu =>
        split at hparent
        next t' ht' =>
          cases hparent
          have hmem : v ∈ t'.values := mem_values.mpr ⟨frame, by
            rw [← frames_asParent u t']
            exact hframe, e, he, hv⟩
          rcases inside ht' hmem with ⟨outer, hdict, hnull | hscope | hmade⟩ | hmade
          · exact Or.inl hnull
          · exact Or.inr (Or.inl (.parent hu hdict hscope))
          · exact Or.inr (Or.inr hmade)
          · exact Or.inr (Or.inr hmade)
        next => cases hparent

theorem takes_of_checkScope {room : Nat} {seen : List ContainerId} {u : Value} {s : Snapshot}
    (h : checkScope heap snapshots room seen u = .ok s) (mem : v ∈ s.values) :
    (∃ fields, heap.dict? u = some fields ∧ Takes heap snapshots fields v) ∨
      ∃ t ∈ snapshots, v ∈ t.values := by
  induction room generalizing seen u s with
  | zero =>
    unfold checkScope at h
    split at h <;> cases h
  | succ room ih =>
    unfold checkScope at h
    split at h
    next =>
      split at h
      next found =>
        cases h
        exact Or.inr ⟨_, Array.mem_of_getElem? found, mem⟩
      next => cases h
    next =>
      split at h
      next => cases h
      next =>
        split at h
        next fields hdict => exact Or.inl ⟨fields, hdict, takes_of_checkFields ih h mem⟩
        next => cases h
    next => cases h

theorem takes_of_ofFields {s : Snapshot} (h : ofFields heap snapshots fields = .ok s)
    (mem : v ∈ s.values) : Takes heap snapshots fields v :=
  takes_of_checkFields takes_of_checkScope h mem

/-- What is captured of a chain was bound in it. -/
theorem values_of_capture {f : Forest} {b : ScopeId} {s : Snapshot} (h : capture f b = .ok s)
    (mem : v ∈ s.values) : ∃ c, ∃ e ∈ (f.locals c).entries, v ∈ e.values := by
  obtain ⟨-, -, hall⟩ := capture_eq_ok.mp h
  obtain ⟨frame, hframe, e, he, hv⟩ := mem_values.mp mem
  obtain ⟨c, -, hcaptured⟩ := Listwise.exists_left hall hframe
  obtain ⟨d, hd, hde⟩ := Listwise.exists_left (captureEntries_eq_ok.mp hcaptured) he
  obtain ⟨-, hvalue, -, hmetadata⟩ := captureEntry_ok hde
  refine ⟨c, d, hd, ?_⟩
  rcases List.mem_cons.mp hv with rfl | hv
  · rw [hvalue]
    exact List.mem_cons_self
  · cases hm : e.metadata with
    | none =>
      rw [hm] at hv
      exact absurd hv List.not_mem_nil
    | some m =>
      rw [hm] at hv
      obtain ⟨p, hp, rfl⟩ := List.mem_map.mp hv
      obtain ⟨n, hn, hvalues⟩ := hmetadata m hm
      obtain ⟨q, hq, hqp⟩ := hvalues p hp
      rw [Entry.values, Option.mem_def.mp hn, ← hqp]
      exact List.mem_cons_of_mem _ (List.mem_map_of_mem hq)

end Snapshot
end ScopeChain
