/-
The names that resolve in a scope.

They are the names of the variables along its chain, each of them once and in strictly
increasing order, which is the one order that they can have so.
-/
import Mathlib.Data.List.Sort
import ScopeChain.Scope.Forest

namespace ScopeChain

def Increasing (names : List String) : Prop := names.Pairwise (· < ·)

theorem Increasing.eq_of_mem_iff {ns ms : List String} (increasing : Increasing ns)
    (increasing' : Increasing ms) (h : ∀ n, n ∈ ns ↔ n ∈ ms) : ns = ms := by
  have : Std.Irrefl (α := String) (· < ·) := ⟨String.lt_irrefl⟩
  have : Std.Antisymm (α := String) (· < ·) := ⟨fun a b hab hba =>
    absurd (String.lt_trans hab hba) (String.lt_irrefl a)⟩
  exact List.Pairwise.eq_of_mem_iff increasing increasing' (fun {n} => h n)

namespace Locals

theorem mem_names_iff (l : Locals) (name : String) : name ∈ l.names ↔ l.defines name = true := by
  simp [names, defines, find?, List.find?_isSome]

end Locals

namespace Forest

variable {f : Forest} {b : ScopeId} {name : String}

theorem mem_insertName {n : String} {names : List String} :
    n ∈ insertName name names ↔ n = name ∨ n ∈ names := by
  induction names with
  | nil => simp [insertName]
  | cons m rest ih =>
    simp only [insertName]
    split
    next => exact List.mem_cons
    next =>
      split
      next heq =>
        subst heq
        simp
      next => rw [List.mem_cons, List.mem_cons, ih, or_left_comm]

theorem increasing_insertName {names : List String} (increasing : Increasing names)
    (name : String) : Increasing (insertName name names) := by
  induction names with
  | nil => exact List.pairwise_singleton _ _
  | cons m rest ih =>
    obtain ⟨hm, hrest⟩ := List.pairwise_cons.mp increasing
    simp only [insertName]
    split
    next hlt =>
      refine List.pairwise_cons.mpr ⟨fun n hn => ?_, increasing⟩
      rcases List.mem_cons.mp hn with rfl | hn
      · exact hlt
      · exact String.lt_trans hlt (hm n hn)
    next hnlt =>
      split
      next => exact increasing
      next hne =>
        refine List.pairwise_cons.mpr ⟨fun n hn => ?_, ih hrest⟩
        rcases mem_insertName.mp hn with rfl | hn
        · exact Std.lt_of_le_of_ne (String.not_lt.mp hnlt) (Ne.symm hne)
        · exact hm n hn

/-! ## The names along a chain -/

theorem mem_foldl_insertName {n : String} (added names : List String) :
    n ∈ added.foldl (fun ns n => insertName n ns) names ↔ n ∈ added ∨ n ∈ names := by
  induction added generalizing names with
  | nil => simp
  | cons m rest ih =>
    rw [List.foldl_cons, ih, mem_insertName, List.mem_cons, or_assoc, or_left_comm]

theorem increasing_foldl_insertName (added : List String) {names : List String}
    (increasing : Increasing names) :
    Increasing (added.foldl (fun ns n => insertName n ns) names) := by
  induction added generalizing names with
  | nil => exact increasing
  | cons m rest ih => exact ih (increasing_insertName increasing m)

theorem visibleNames_eq_foldl (f : Forest) (b : ScopeId) :
    f.visibleNames b =
      ((f.chain b).flatMap fun c => (f.locals c).names).foldl (fun ns n => insertName n ns) [] :=
  List.foldl_flatMap.symm

theorem mem_visibleNames : name ∈ f.visibleNames b ↔
    ∃ c ∈ f.chain b, (f.locals c).defines name = true := by
  rw [visibleNames_eq_foldl, mem_foldl_insertName, List.mem_flatMap]
  simp only [Locals.mem_names_iff, List.not_mem_nil, or_false]

theorem increasing_visibleNames (f : Forest) (b : ScopeId) : Increasing (f.visibleNames b) := by
  rw [visibleNames_eq_foldl]
  exact increasing_foldl_insertName _ List.Pairwise.nil

end Forest
end ScopeChain
