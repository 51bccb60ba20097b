/-
Forests that grow.

A forest that another extends has its scopes there with the same parents, so that their chains
are the same, and one within another has them there with the same variables too.  New scopes
and writes extend a forest, and writes to new scopes leave it within the result.
-/
import ScopeChain.Proofs.Scope.Locals
import ScopeChain.Scope.Forest

namespace ScopeChain

namespace Forest

theorem parent?_of_le {f : Forest} {b : ScopeId} (le : f.size ≤ b) : f.parent? b = none := by
  have hget : f.scopes[b]? = none := Array.getElem?_eq_none le
  simp [parent?, hget]

theorem locals_of_le {f : Forest} {b : ScopeId} (le : f.size ≤ b) : f.locals b = .empty := by
  have hget : f.scopes[b]? = none := Array.getElem?_eq_none le
  simp [locals, hget]

theorem le_of_mem_chain {f : Forest} {b c : ScopeId} (h : c ∈ f.chain b) : c ≤ b := by
  induction b using Nat.strongRecOn with
  | _ b ih =>
    cases hp : f.parent? b with
    | none =>
      rw [chain_of_global hp] at h
      exact Nat.le_of_eq (List.mem_singleton.mp h)
    | some p =>
      rw [chain_of_parent hp] at h
      rcases List.mem_cons.mp h with rfl | h
      · exact Nat.le_refl _
      · exact Nat.le_of_lt (Nat.lt_of_le_of_lt (ih p (lt_of_parent? hp) h) (lt_of_parent? hp))

theorem length_chain (f : Forest) (b : ScopeId) : (f.chain b).length = f.depth b + 1 := by
  rw [chain_eq, List.length_cons, depth]

theorem root_mem_chain (f : Forest) (b : ScopeId) : f.root b ∈ f.chain b := by
  have hne : f.chain b ≠ [] := by simp [chain_eq f b]
  rw [root, List.getLastD_eq_getLast?, List.getLast?_eq_some_getLast hne]
  exact List.getLast_mem hne

theorem root_lt {f : Forest} {b : ScopeId} (lt : b < f.size) : f.root b < f.size :=
  Nat.lt_of_le_of_lt (le_of_mem_chain (root_mem_chain f b)) lt

/-! ## New scopes -/

theorem parent?_add {f : Forest} {p : ScopeId} (lt : p < f.size) (b : ScopeId) :
    (f.add (some p)).2.parent? b = if b = f.size then some p else f.parent? b := by
  by_cases h : b = f.size
  · subst h
    rw [if_pos rfl]
    refine (parent?_add_self f (some p)).trans ?_
    simp [Option.filter, lt]
  · rw [if_neg h]
    by_cases hlt : b < f.size
    · exact parent?_add_of_lt hlt (some p)
    · have hgt : f.size < b := Nat.lt_of_le_of_ne (Nat.le_of_not_lt hlt) (Ne.symm h)
      rw [parent?_of_le (Nat.le_of_lt hgt)]
      refine parent?_of_le ?_
      rw [size_add]
      exact hgt

theorem locals_add (f : Forest) (parent : Option ScopeId) (b : ScopeId) :
    (f.add parent).2.locals b = f.locals b := by
  by_cases lt : b < f.size
  · exact locals_add_of_lt lt parent
  · rw [locals_of_le (Nat.le_of_not_lt lt)]
    by_cases h : b = f.size
    · subst h
      exact locals_add_self f parent
    · have hgt : f.size < b := Nat.lt_of_le_of_ne (Nat.le_of_not_lt lt) (Ne.symm h)
      refine locals_of_le ?_
      rw [size_add]
      exact hgt

/-! ## Growth -/

structure Extends (f g : Forest) : Prop where
  size : f.size ≤ g.size
  parent? : ∀ b < f.size, g.parent? b = f.parent? b

namespace Extends

theorem refl (f : Forest) : f.Extends f := ⟨Nat.le_refl _, fun _ _ => rfl⟩

theorem trans {f g k : Forest} (first : f.Extends g) (second : g.Extends k) : f.Extends k where
  size := Nat.le_trans first.size second.size
  parent? b lt := by rw [second.parent? b (Nat.lt_of_lt_of_le lt first.size), first.parent? b lt]

theorem add (f : Forest) (parent : Option ScopeId) : f.Extends (f.add parent).2 where
  size := by rw [size_add]; exact Nat.le_succ _
  parent? _ lt := parent?_add_of_lt lt parent

theorem write (f : Forest) (b : ScopeId) (name : String) (value : Value)
    (metadata : Option Metadata) : f.Extends (f.write b name value metadata) where
  size := Nat.le_of_eq (size_write ..).symm
  parent? c _ := parent?_write f b c name value metadata

theorem chain {f g : Forest} (extended : f.Extends g) {b : ScopeId} (lt : b < f.size) :
    g.chain b = f.chain b := by
  induction b using Nat.strongRecOn with
  | _ b ih =>
    cases hp : f.parent? b with
    | none => rw [chain_of_global hp, chain_of_global ((extended.parent? b lt).trans hp)]
    | some p =>
      have hlt : p < b := lt_of_parent? hp
      rw [chain_of_parent hp, chain_of_parent ((extended.parent? b lt).trans hp),
        ih p hlt (Nat.lt_trans hlt lt)]

end Extends

/-- Whether the scopes of a forest are in another as they are. -/
structure Within (f g : Forest) : Prop extends Extends f g where
  locals : ∀ b < f.size, g.locals b = f.locals b

namespace Within

theorem refl (f : Forest) : f.Within f := ⟨.refl f, fun _ _ => rfl⟩

theorem trans {f g k : Forest} (first : f.Within g) (second : g.Within k) : f.Within k where
  toExtends := first.toExtends.trans second.toExtends
  locals b lt := by rw [second.locals b (Nat.lt_of_lt_of_le lt first.size), first.locals b lt]

theorem add (f : Forest) (parent : Option ScopeId) : f.Within (f.add parent).2 where
  toExtends := .add f parent
  locals _ lt := locals_add_of_lt lt parent

end Within

/-! ## Many writes to one scope -/

section WriteAll

variable (f : Forest) (b : ScopeId) (entries : List Entry)

theorem size_writeAll : (f.writeAll b entries).size = f.size := by
  induction entries generalizing f with
  | nil => rfl
  | cons e rest ih => exact (ih _).trans (size_write ..)

theorem parent?_writeAll (c : ScopeId) : (f.writeAll b entries).parent? c = f.parent? c := by
  induction entries generalizing f with
  | nil => rfl
  | cons e rest ih => exact (ih _).trans (parent?_write ..)

theorem locals_writeAll_of_ne {c : ScopeId} (h : c ≠ b) :
    (f.writeAll b entries).locals c = f.locals c := by
  induction entries generalizing f with
  | nil => rfl
  | cons e rest ih => exact (ih _).trans (locals_write_of_ne f h ..)

variable {f b} in
theorem locals_writeAll_self (lt : b < f.size) :
    (f.writeAll b entries).locals b =
      entries.foldl (fun l e => l.set e.name e.value e.metadata) (f.locals b) := by
  induction entries generalizing f with
  | nil => rfl
  | cons e rest ih =>
    have hstep := ih (f := f.write b e.name e.value e.metadata) (by rw [size_write]; exact lt)
    rw [locals_write_self lt] at hstep
    exact hstep

theorem Within.writeAll {g : Forest} (within : g.Within f) (new : g.size ≤ b) :
    g.Within (f.writeAll b entries) where
  size := by rw [size_writeAll]; exact within.size
  parent? c lt := by rw [parent?_writeAll, within.parent? c lt]
  locals c lt := by
    rw [locals_writeAll_of_ne f b entries (Nat.ne_of_lt (Nat.lt_of_lt_of_le lt new)),
      within.locals c lt]

end WriteAll

end Forest
end ScopeChain
