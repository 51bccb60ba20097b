/-
What a checked snapshot holds.

A scope is sound exactly if each of its fields is and its shape fits its parent.  The
metadata of a checked variable has distinct texts for keys, and so has all metadata of a
snapshot that was checked among snapshots of which that is true.
-/
import ScopeChain.Proofs.Snapshot.Capture
import ScopeChain.Snapshot.Check

namespace ScopeChain

namespace Checked

theorem inside_eq_ok {α : Type} {p : Place} {c : Checked α} {a : α} :
    c.inside p = .ok a ↔ c = .ok a := by
  cases c <;> simp [inside]

end Checked

namespace Snapshot

def Plain (s : Snapshot) : Prop := ∀ frame ∈ s.frames, ∀ e ∈ frame.entries, e.Plain

variable {heap : Heap}

/-! ## Variables -/

theorem plain_of_checkEntryFields {fields : Metadata} {e : Entry}
    (h : checkEntryFields heap fields = .ok e) : e.Plain := by
  unfold checkEntryFields at h
  simp only at h
  split at h
  next name metadata _ hmetadata =>
    cases h
    rw [checkOptionalMetadata, Checked.inside_eq_ok] at hmetadata
    split at hmetadata
    next =>
      cases hmetadata
      exact fun m hm => nomatch hm
    next =>
      cases hmetadata
      exact fun m hm => nomatch hm
    next =>
      split at hmetadata
      next => cases hmetadata
      next =>
        split at hmetadata
        next m hm =>
          cases hmetadata
          rintro m ⟨⟩
          obtain ⟨htexts, hdistinct, -⟩ := checkMetadata_ok hm
          exact ⟨htexts, hdistinct⟩
        next => cases hmetadata
  next => cases h

theorem plain_of_checkEntriesFrom {i : Nat} {values : List Value} {es : List Entry}
    (h : checkEntriesFrom heap i values = .ok es) : ∀ e ∈ es, e.Plain := by
  induction values generalizing i es with
  | nil =>
    cases h
    exact fun e he => absurd he List.not_mem_nil
  | cons v rest ih =>
    rw [checkEntriesFrom] at h
    split at h
    next e es he hes =>
      cases h
      rw [Checked.inside_eq_ok, checkEntry] at he
      intro d hd
      rcases List.mem_cons.mp hd with rfl | hd
      · split at he
        next => exact plain_of_checkEntryFields he
        next => cases he
      · exact ih hes d hd
    next => cases h

/-! ## Scopes -/

/-- A scope is read exactly if its fields are and its shape fits. -/
theorem checkFields_eq_ok {read : Value → Checked Snapshot} {fields : Metadata} {s : Snapshot} :
    checkFields heap read fields = .ok s ↔
      ∃ depth isGlobal bound parent, checkDepth fields = .ok depth ∧
        checkRequired Coerce.boolean fields "is_global" = .ok isGlobal ∧
        checkEntries heap fields = .ok bound ∧ checkParent read fields = .ok parent ∧
        checkShape depth isGlobal bound parent = .ok s := by
  unfold checkFields
  constructor
  · intro h
    simp only at h
    split at h
    next depth isGlobal bound parent hdepth hglobal hbound hparent =>
      exact ⟨depth, isGlobal, bound, parent, hdepth, hglobal, hbound, hparent, h⟩
    next => cases h
  · rintro ⟨depth, isGlobal, bound, parent, hdepth, hglobal, hbound, hparent, h⟩
    simp only [hdepth, hglobal, hbound, hparent, h]

theorem frames_asParent (v : Value) (s : Snapshot) : (asParent v s).frames = s.frames := by
  cases v <;> rfl

theorem plain_of_checkFields {read : Value → Checked Snapshot} {fields : Metadata} {s : Snapshot}
    (inside : ∀ {v t}, read v = .ok t → t.Plain) (h : checkFields heap read fields = .ok s) :
    s.Plain := by
  obtain ⟨depth, isGlobal, bound, parent, -, -, hbound, hparent, hshape⟩ := checkFields_eq_ok.mp h
  obtain ⟨-, -, rfl⟩ := checkShape_eq_ok.mp hshape
  have hfirst : ∀ e ∈ bound, e.Plain := by
    rw [checkEntries, Checked.inside_eq_ok] at hbound
    split at hbound
    next =>
      cases hbound
      exact fun e he => absurd he List.not_mem_nil
    next =>
      split at hbound
      next => exact plain_of_checkEntriesFrom hbound
      next => cases hbound
  have houter : ∀ t ∈ parent, t.Plain := by
    rw [checkParent, Checked.inside_eq_ok] at hparent
    split at hparent
    next =>
      cases hparent
      exact fun t ht => nomatch ht
    next =>
      cases hparent
      exact fun t ht => nomatch ht
    next v _ _ =>
      split at hparent
      next t ht =>
        cases hparent
        rintro _ ⟨⟩
        rw [Plain, frames_asParent]
        exact inside ht
      next => cases hparent
  intro frame hframe
  rcases List.mem_cons.mp hframe with rfl | hframe
  · exact hfirst
  · cases parent with
    | none => exact absurd hframe List.not_mem_nil
    | some t => exact houter t rfl frame hframe

theorem plain_of_checkScope {snapshots : Array Snapshot} (made : ∀ s ∈ snapshots, s.Plain)
    {room : Nat} {seen : List ContainerId} {v : Value} {s : Snapshot}
    (h : checkScope heap snapshots room seen v = .ok s) : s.Plain := by
  induction room generalizing seen v s with
  | zero =>
    unfold checkScope at h
    split at h <;> cases h
  | succ room ih =>
    unfold checkScope at h
    split at h
    next =>
      split at h
      next found =>
        cases h
        exact made _ (Array.mem_of_getElem? found)
      next => cases h
    next =>
      split at h
      next => cases h
      next =>
        split at h
        next => exact plain_of_checkFields ih h
        next => cases h
    next => cases h

theorem plain_of_ofValue {snapshots : Array Snapshot} (made : ∀ s ∈ snapshots, s.Plain)
    {v : Value} {s : Snapshot} (h : ofValue heap snapshots v = .ok s) : s.Plain :=
  plain_of_checkScope made h

theorem plain_of_ofFields {snapshots : Array Snapshot} (made : ∀ s ∈ snapshots, s.Plain)
    {fields : Metadata} {s : Snapshot} (h : ofFields heap snapshots fields = .ok s) : s.Plain :=
  plain_of_checkFields (plain_of_checkScope made) h

theorem plain_of_capture {f : Forest} {b : ScopeId} {s : Snapshot} (h : capture f b = .ok s) :
    s.Plain := by
  obtain ⟨-, -, hall⟩ := capture_eq_ok.mp h
  intro frame hframe c hc
  obtain ⟨d, -, hcaptured⟩ := Listwise.exists_left hall hframe
  obtain ⟨e, -, he⟩ := Listwise.exists_left (captureEntries_eq_ok.mp hcaptured) hc
  exact (captureEntry_ok he).2.2.1

end Snapshot
end ScopeChain
