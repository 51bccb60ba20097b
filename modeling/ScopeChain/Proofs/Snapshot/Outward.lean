/-
Scopes that are nested in data.

A dict nests the scope that it is and those that its parent nests.  A value among finitely many
nested scopes is never met twice on the way outward, so it is read from its fields as it would be
on its own.
-/
import ScopeChain.Proofs.Snapshot.Findings

namespace ScopeChain

def Heap.outward (heap : Heap) : Nat → Value → Option Value
  | 0, v => some v
  | k + 1, v => (heap.dict? v).bind fun fields => (fieldOf fields "parent").bind (heap.outward k)

/-- Whether a value nests `n` scopes: the dict of a scope, that of its parent and so on, until one
has no parent or the value in its place is no dict. -/
inductive Nests (heap : Heap) : Value → Nat → Prop where
  | stray {v : Value} (absent : heap.dict? v = none) : Nests heap v 0
  | last {v : Value} {fields : Metadata} (dict : heap.dict? v = some fields)
    (alone : ∀ p, fieldOf fields "parent" = some p → p = .null) : Nests heap v 1
  | inside {v p : Value} {fields : Metadata} {n : Nat} (dict : heap.dict? v = some fields)
    (parent : fieldOf fields "parent" = some p) (given : p ≠ .null)
    (enclosing : Nests heap p n) : Nests heap v (n + 1)

theorem Nests.unique {heap : Heap} {v : Value} {n m : Nat} (first : Nests heap v n)
    (second : Nests heap v m) : n = m := by
  induction first generalizing m with
  | stray absent =>
    cases second with
    | stray _ => rfl
    | last dict _ => cases absent.symm.trans dict
    | inside dict _ _ _ => cases absent.symm.trans dict
  | last dict alone =>
    cases second with
    | stray absent => cases absent.symm.trans dict
    | last _ _ => rfl
    | inside dict' parent given _ =>
      cases dict.symm.trans dict'
      exact absurd (alone _ parent) given
  | inside dict parent given _ ih =>
    cases second with
    | stray absent => cases absent.symm.trans dict
    | last dict' alone =>
      cases dict.symm.trans dict'
      exact absurd (alone _ parent) given
    | inside dict' parent' _ enclosing' =>
      cases dict.symm.trans dict'
      cases parent.symm.trans parent'
      rw [ih enclosing']

theorem DescribesChain.nests {heap : Heap} {v : Value} {levels : List Level}
    (described : DescribesChain heap v levels) : Nests heap v levels.length := by
  induction described with
  | last dict _ alone => exact .last dict alone
  | inside dict _ parent given _ ih => exact .inside dict parent given ih

namespace Snapshot

open Checked

variable {heap : Heap} {snapshots : Array Snapshot} {fields : Metadata} {v : Value} {n room : Nat}
  {seen : List ContainerId}

/-! ### Dicts that were seen -/

def Beyond (heap : Heap) (seen : List ContainerId) (n : Nat) : Prop :=
  ∀ id ∈ seen, ∃ m, Nests heap (.container id) m ∧ n < m

theorem Beyond.not_mem {id : ContainerId} (beyond : Beyond heap seen n)
    (nests : Nests heap (.container id) n) : id ∉ seen := by
  intro hmem
  obtain ⟨m, hm, hlt⟩ := beyond id hmem
  rw [hm.unique nests] at hlt
  exact Nat.lt_irrefl _ hlt

theorem Beyond.cons {id : ContainerId} (beyond : Beyond heap seen (n + 1))
    (nests : Nests heap (.container id) (n + 1)) : Beyond heap (id :: seen) n := by
  intro c hc
  rcases List.mem_cons.mp hc with rfl | hc
  · exact ⟨_, nests, Nat.lt_succ_self n⟩
  · obtain ⟨m, hm, hlt⟩ := beyond c hc
    exact ⟨m, hm, Nat.lt_of_succ_lt hlt⟩

theorem checkParent_congr {read read' : Value → Checked Snapshot}
    (same : ∀ p, fieldOf fields "parent" = some p → p ≠ .null → read p = read' p) :
    checkParent read fields = checkParent read' fields := by
  unfold checkParent
  split
  next => rfl
  next => rfl
  next p hnull hp => rw [same p hp hnull]

/-- Inside dicts that nest more scopes than a value it is the same value as on its own. -/
theorem checkScope_of_beyond (nests : Nests heap v n) (beyond : Beyond heap seen n) :
    checkScope heap snapshots room seen v = checkScope heap snapshots room [] v := by
  induction nests generalizing room seen with
  | @stray v absent =>
    cases v with
    | container id =>
      have hseen := beyond.not_mem (.stray absent)
      cases room <;> simp [checkScope, hseen, absent]
    | _ => cases room <;> rfl
  | @last v fields dict alone =>
    obtain ⟨id, rfl, -⟩ := Heap.dict?_eq_some.mp dict
    have hseen := beyond.not_mem (.last dict alone)
    cases room with
    | zero => simp [checkScope, hseen]
    | succ room =>
      rw [checkScope_of_dict dict hseen, checkScope_of_dict dict List.not_mem_nil, checkFields_eq,
        checkFields_eq, checkParent_congr fun p hp given => absurd (alone p hp) given]
  | @inside v p fields n dict parent given enclosing ih =>
    obtain ⟨id, rfl, -⟩ := Heap.dict?_eq_some.mp dict
    have hself : Nests heap (.container id) (n + 1) := .inside dict parent given enclosing
    have hseen := beyond.not_mem hself
    cases room with
    | zero => simp [checkScope, hseen]
    | succ room =>
      have hnone : Beyond heap [] (n + 1) := fun c hc => absurd hc List.not_mem_nil
      have hread : checkScope heap snapshots room (id :: seen) p =
          checkScope heap snapshots room [id] p :=
        (ih (beyond.cons hself)).trans (ih (hnone.cons hself)).symm
      rw [checkScope_of_dict dict hseen, checkScope_of_dict dict List.not_mem_nil, checkFields_eq,
        checkFields_eq, checkParent_congr fun q hq _ => ?_]
      cases parent.symm.trans hq
      exact hread

/-- The scope of a dict among finitely many is read from its fields, and its parent as on its
own. -/
theorem checkScope_of_nests (nests : Nests heap v n) (dict : heap.dict? v = some fields) :
    checkScope heap snapshots (room + 1) [] v =
      checkFields heap (checkScope heap snapshots room []) fields := by
  obtain ⟨id, rfl, -⟩ := Heap.dict?_eq_some.mp dict
  have hnone : ∀ n, Beyond heap [] n := fun n c hc => absurd hc List.not_mem_nil
  rw [checkScope_of_dict dict List.not_mem_nil, checkFields_eq, checkFields_eq,
    checkParent_congr fun p hp given => ?_]
  cases nests with
  | stray absent => cases absent.symm.trans dict
  | last dict' alone =>
    cases dict.symm.trans dict'
    exact absurd (alone p hp) given
  | inside dict' parent given' enclosing =>
    cases dict.symm.trans dict'
    cases parent.symm.trans hp
    exact checkScope_of_beyond enclosing ((hnone _).cons (.inside dict parent given' enclosing))

end Snapshot
end ScopeChain
