/-
What is rebuilt from frames.

A rebuilt chain consists of new scopes, numbered from the global one inward, and each holds
what its frame binds.  The scopes that were there stay as they are.
-/
import Mathlib.Data.List.Forall2
import ScopeChain.Proofs.Scope.Growth
import ScopeChain.Snapshot.Basic

namespace ScopeChain
namespace Snapshot

def newScopes (base : Nat) : Nat → List ScopeId
  | 0 => []
  | n + 1 => (base + n) :: newScopes base n

theorem mem_newScopes {base n c : Nat} : c ∈ newScopes base n ↔ base ≤ c ∧ c < base + n := by
  induction n with
  | zero =>
    simp only [newScopes, List.not_mem_nil, false_iff, not_and]
    omega
  | succ n ih =>
    rw [newScopes, List.mem_cons, ih]
    omega

/-- What a forest is after a chain was rebuilt: `frames` are those of the chain, and `b` is
its innermost scope. -/
structure Rebuilt (f : Forest) (frames : List Frame) (b : Option ScopeId) (g : Forest) :
    Prop where
  within : f.Within g
  size : g.size = f.size + frames.length
  first : b = (newScopes f.size frames.length).head?
  chain : ∀ c ∈ b, g.chain c = newScopes f.size frames.length
  locals : List.Forall₂ (fun c frame => g.locals c = .ofEntries frame.entries)
    (newScopes f.size frames.length) frames

theorem Rebuilt.present {f g : Forest} {frames : List Frame} {b : ScopeId}
    (rebuilt : Rebuilt f frames (some b) g) : b < g.size := by
  rw [rebuilt.size]
  exact (mem_newScopes.mp (List.mem_of_mem_head? rebuilt.first.symm)).2

theorem Rebuilt.restoreFrame {f g : Forest} {frames : List Frame} {p : Option ScopeId}
    (rebuilt : Rebuilt f frames p g) (frame : Frame) :
    Rebuilt f (frame :: frames) (some (restoreFrame g p frame).1)
      (restoreFrame g p frame).2 := by
  have hid : (Snapshot.restoreFrame g p frame).1 = f.size + frames.length := rebuilt.size
  have hsize : (g.add p).2.size = f.size + frames.length + 1 := by
    rw [Forest.size_add, rebuilt.size]
  have hgrown : g.Within (Snapshot.restoreFrame g p frame).2 :=
    .writeAll _ _ _ (.add g p) (Nat.le_refl g.size)
  have hparent : (Snapshot.restoreFrame g p frame).2.parent? (f.size + frames.length) = p := by
    rw [← hid]
    refine (Forest.parent?_writeAll ..).trans ((Forest.parent?_add_self g p).trans ?_)
    cases p with
    | none => rfl
    | some c =>
      have hmem : c ∈ newScopes f.size frames.length := List.mem_of_mem_head? rebuilt.first.symm
      have hlt : c < g.size := by
        rw [rebuilt.size]
        exact (mem_newScopes.mp hmem).2
      simp [Option.filter, hlt]
  have hlocals : (Snapshot.restoreFrame g p frame).2.locals (f.size + frames.length) =
      .ofEntries frame.entries := by
    rw [← hid]
    refine (Forest.locals_writeAll_self (f := (g.add p).2) (b := (g.add p).1) _ ?_).trans ?_
    · rw [Forest.size_add]
      exact Nat.lt_succ_self _
    · rw [Forest.locals_add_self]
      rfl
  refine ⟨rebuilt.within.trans hgrown, ?_, congrArg some hid, ?_, ?_⟩
  · exact (Forest.size_writeAll ..).trans hsize
  · rintro c hc
    cases hc
    rw [hid]
    cases p with
    | none =>
      rw [Forest.chain_of_global hparent]
      cases frames with
      | nil => rfl
      | cons d frames => cases rebuilt.first
    | some c =>
      have hlt : c < g.size := by
        rw [rebuilt.size]
        exact (mem_newScopes.mp (List.mem_of_mem_head? rebuilt.first.symm)).2
      rw [Forest.chain_of_parent hparent, hgrown.toExtends.chain hlt, rebuilt.chain c rfl]
      rfl
  · refine .cons hlocals ((List.forall₂_iff_zip.mpr ⟨rebuilt.locals.length_eq, ?_⟩))
    intro c d hmem
    have hlt : c < g.size := by
      rw [rebuilt.size]
      exact (mem_newScopes.mp (List.of_mem_zip hmem).1).2
    rw [hgrown.locals c hlt]
    exact (List.forall₂_iff_zip.mp rebuilt.locals).2 hmem

theorem rebuilt_restoreFrames (f : Forest) (frames : List Frame) :
    Rebuilt f frames (restoreFrames f frames).1 (restoreFrames f frames).2 := by
  induction frames with
  | nil =>
    exact ⟨.refl f, rfl, rfl, fun c hc => (Option.not_mem_none c hc).elim, .nil⟩
  | cons frame frames ih => exact ih.restoreFrame frame

/-- The chain that is rebuilt from a snapshot. -/
theorem rebuilt_restore (f : Forest) (s : Snapshot) :
    Rebuilt f s.frames (some (s.restore f).1) (s.restore f).2 :=
  (rebuilt_restoreFrames f s.outer).restoreFrame s.first

end Snapshot
end ScopeChain
