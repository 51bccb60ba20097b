/-
The shape of a chain.

A chain ends in its root, which is the only global scope on it and the root of all its scopes.
The chain of a scope on it is its rest from there on, so depths count down to zero along it.
-/
import ScopeChain.Proofs.Scope.Partner

namespace ScopeChain
namespace Forest

variable {f : Forest} {b c : ScopeId}

theorem mem_chain_self (f : Forest) (b : ScopeId) : b ∈ f.chain b := by
  rw [chain_eq]
  exact List.mem_cons_self

/-- The chain of a scope on a chain is the rest of that from there on. -/
theorem chain_suffix_of_mem (h : c ∈ f.chain b) : f.chain c <:+ f.chain b := by
  induction b using Nat.strongRecOn with
  | _ b ih =>
    cases hp : f.parent? b with
    | none =>
      rw [chain_of_global hp] at h
      obtain rfl : c = b := List.mem_singleton.mp h
      exact List.suffix_rfl
    | some p =>
      rw [chain_of_parent hp] at h
      rcases List.mem_cons.mp h with rfl | h
      · exact List.suffix_rfl
      · rw [chain_of_parent hp]
        exact (ih p (lt_of_parent? hp) h).trans (List.suffix_cons b (f.chain p))

theorem mem_chain_trans {d : ScopeId} (hc : c ∈ f.chain b) (hd : d ∈ f.chain c) :
    d ∈ f.chain b :=
  (chain_suffix_of_mem hc).subset hd

theorem getLast?_chain (f : Forest) (b : ScopeId) : (f.chain b).getLast? = some (f.root b) := by
  rw [root, List.getLastD_eq_getLast?]
  cases h : (f.chain b).getLast? with
  | none =>
    rw [List.getLast?_eq_none_iff, chain_eq] at h
    cases h
  | some c => rfl

theorem root_of_mem_chain (h : c ∈ f.chain b) : f.root c = f.root b := by
  obtain ⟨front, hfront⟩ := chain_suffix_of_mem h
  have hlast := getLast?_chain f b
  rw [← hfront, List.getLast?_append, getLast?_chain, Option.some_or] at hlast
  exact Option.some.inj hlast

theorem isGlobal_iff (f : Forest) (b : ScopeId) : f.isGlobal b = true ↔ b = f.root b := by
  cases hp : f.parent? b with
  | none =>
    rw [isGlobal, hp, root, chain_of_global hp]
    exact iff_of_true rfl rfl
  | some p =>
    -- The root is that of the parent, which is older.
    have hmem : p ∈ f.chain b := by
      rw [chain_of_parent hp]
      exact List.mem_cons_of_mem _ (mem_chain_self f p)
    have hlt : f.root b < b := by
      rw [← root_of_mem_chain hmem]
      exact Nat.lt_of_le_of_lt (le_of_mem_chain (root_mem_chain f p)) (lt_of_parent? hp)
    rw [isGlobal, hp]
    exact iff_of_false Bool.false_ne_true (Nat.ne_of_gt hlt)

/-- Of the scopes on a chain only the root is global. -/
theorem isGlobal_iff_of_mem_chain (h : c ∈ f.chain b) : f.isGlobal c = true ↔ c = f.root b := by
  rw [isGlobal_iff, root_of_mem_chain h]

theorem depth_of_parent {p : ScopeId} (h : f.parent? b = some p) : f.depth b = f.depth p + 1 := by
  rw [depth, enclosing_of_parent h, length_chain]

end Forest
end ScopeChain
