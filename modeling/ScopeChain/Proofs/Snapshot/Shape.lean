/-
The shape of every snapshot.

Reading a scope compares its depth with that of its parent and no other, and a snapshot that is
given as a parent is taken as it is.  Still the frames of what is read count down to a global
one, since those of a parent do: it was read just so, or it was there before.
-/
import ScopeChain.Proofs.Snapshot.Described

namespace ScopeChain
namespace Snapshot

/-! ## Frames that have the shape of a chain -/

section Shaped

variable {frames inner outer : List Frame} {frame : Frame}

theorem Shaped.of_append (shaped : Shaped (inner ++ outer)) : Shaped outer := by
  induction inner with
  | nil => exact shaped
  | cons _ _ ih => exact ih shaped.2.2

theorem Shaped.isGlobal_iff (shaped : Shaped (inner ++ frame :: outer)) :
    frame.isGlobal = true ↔ outer = [] := by
  obtain ⟨-, hglobal, -⟩ := shaped.of_append
  rw [hglobal, List.isEmpty_iff]

theorem Shaped.depths (shaped : Shaped frames) :
    frames.map Frame.depth = (List.range frames.length).reverse := by
  induction frames with
  | nil => rfl
  | cons frame outer ih =>
    obtain ⟨hdepth, -, houter⟩ := shaped
    rw [List.map_cons, ih houter, List.length_cons, List.range_succ, List.reverse_append, hdepth]
    rfl

theorem Shaped.cons {parent : Snapshot} (shaped : Shaped parent.frames)
    (depth : frame.depth = parent.first.depth + 1) (inside : frame.isGlobal = false) :
    Shaped (frame :: parent.frames) := by
  obtain ⟨hfirst, -, -⟩ := show Shaped (parent.first :: parent.outer) from shaped
  refine ⟨?_, inside, shaped⟩
  rw [depth, hfirst]
  rfl

end Shaped

/-! ## Snapshots that are read -/

variable {heap : Heap} {snapshots : Array Snapshot} {fields : Metadata} {s : Snapshot}

theorem shaped_of_checkFields {read : Value → Checked Snapshot}
    (inside : ∀ {v t}, read v = .ok t → Shaped t.frames)
    (h : checkFields heap read fields = .ok s) : Shaped s.frames := by
  obtain ⟨depth, isGlobal, bound, parent, -, -, -, hparent, hshape⟩ := checkFields_eq_ok.mp h
  obtain ⟨hglobal, hdepth, rfl⟩ := checkShape_eq_ok.mp hshape
  cases parent with
  | none => exact ⟨hdepth, hglobal, trivial⟩
  | some t =>
    obtain ⟨p, u, -, -, hread, rfl⟩ := checkParent_eq_some.mp hparent
    have hframes : Shaped (asParent p u).frames := by
      rw [frames_asParent]
      exact inside hread
    exact hframes.cons hdepth hglobal

theorem shaped_of_checkScope (made : ∀ s ∈ snapshots, Shaped s.frames) {room : Nat}
    {seen : List ContainerId} {v : Value} (h : checkScope heap snapshots room seen v = .ok s) :
    Shaped s.frames := by
  induction room generalizing seen v s with
  | zero =>
    unfold checkScope at h
    split at h <;> cases h
  | succ room ih =>
    unfold checkScope at h
    split at h
    next =>
      split at h
      next found =>
        cases h
        exact made _ (Array.mem_of_getElem? found)
      next => cases h
    next =>
      split at h
      next => cases h
      next =>
        split at h
        next => exact shaped_of_checkFields ih h
        next => cases h
    next => cases h

theorem shaped_of_ofFields (made : ∀ s ∈ snapshots, Shaped s.frames)
    (h : ofFields heap snapshots fields = .ok s) : Shaped s.frames :=
  shaped_of_checkFields (shaped_of_checkScope made) h

end Snapshot
end ScopeChain
