/-
Maps of a chain, laid over one another.

What the variables of the scopes on a chain have is bound in one map, from the global scope
inward, so that an inner scope covers what an outer one binds of the same name.  A search along
the chain, which begins at its inner end, finds of a name what this map has in the end.
-/
import Mathlib.Logic.Function.Basic
import ScopeChain.Proofs.Scope.Sight

namespace ScopeChain

def bindAll {α : Type} (m : String → Option α) (pairs : List (String × α)) : String → Option α :=
  pairs.foldl (fun m p => Function.update m p.1 (some p.2)) m

/-- The names of the variables that have what is looked for, each with what it has. -/
def Entry.pairs {α : Type} (look : Entry → Option α) (entries : List Entry) : List (String × α) :=
  entries.filterMap fun e => (look e).map (e.name, ·)

theorem Entry.bindAll_pairs_cons {α : Type} (look : Entry → Option α) (e : Entry)
    (rest : List Entry) (m : String → Option α) :
    bindAll m (pairs look (e :: rest)) =
      bindAll (Function.update m e.name ((look e).or (m e.name))) (pairs look rest) := by
  rw [pairs, List.filterMap_cons]
  cases look e with
  | none => rw [Option.none_or, Function.update_eq_self]; rfl
  | some a => rfl

theorem Entry.bindAll_pairs {α : Type} (look : Entry → Option α) {entries : List Entry}
    (sorted : Sorted entries) (m : String → Option α) (name : String) :
    bindAll m (pairs look entries) name =
      ((entries.find? (·.name == name)).bind look).or (m name) := by
  induction entries generalizing m with
  | nil => rfl
  | cons e rest ih =>
    obtain ⟨hlt, hrest⟩ := List.pairwise_cons.mp sorted
    rw [bindAll_pairs_cons, ih hrest]
    by_cases hname : e.name = name
    · -- No variable behind it has the name.
      subst hname
      have hnone : rest.find? (·.name == e.name) = none := by
        refine List.find?_eq_none.mpr fun d hd heq => ?_
        exact String.lt_irrefl _ (eq_of_beq heq ▸ hlt d hd)
      rw [hnone, Function.update_self, List.find?_cons_of_pos (by simp)]
      rfl
    · rw [Function.update_of_ne (Ne.symm hname), List.find?_cons_of_neg (by simpa using hname)]

namespace Forest

variable {f : Forest} {b : ScopeId} {name : String}

/-- What the variables along a chain have, bound from its last scope inward. -/
def overlay {α : Type} (f : Forest) (look : Entry → Option α) (b : ScopeId) : String → Option α :=
  (f.chain b).reverse.foldl (fun m c => bindAll m (Entry.pairs look (f.locals c).entries))
    fun _ => none

/-- The nearest scope that has what is looked for is the one that is on top. -/
theorem overlay_eq_nearest? {α : Type} (look : Entry → Option α) (f : Forest) (b : ScopeId)
    (name : String) :
    f.overlay look b name = f.nearest? (fun l => (l.find? name).bind look) b := by
  rw [overlay, nearest?, List.foldl_reverse]
  induction f.chain b with
  | nil => rfl
  | cons c rest ih =>
    rw [List.foldr_cons, Entry.bindAll_pairs look (f.locals c).sorted, ih, List.findSome?_cons]
    rw [Locals.find?]
    cases ((f.locals c).entries.find? (·.name == name)).bind look <;> rfl

/-- The values of a chain are those that its scopes bind, laid over one another. -/
theorem get_eq_overlay (f : Forest) (b : ScopeId) (name : String) :
    f.get b name = f.overlay (fun e => some e.value) b name := by
  rw [get_eq_nearest?, overlay_eq_nearest?]
  exact Listwise.findSome?_congr fun c _ => Option.map_eq_bind

theorem metadata_eq_overlay (f : Forest) (b : ScopeId) (name : String) :
    f.metadata b name = f.overlay (·.metadata) b name := by
  rw [metadata_eq_nearest?, overlay_eq_nearest?]
  rfl

theorem resolves_eq_get (f : Forest) (b : ScopeId) (name : String) :
    f.resolves b name = (f.get b name).isSome := by
  rw [resolves, get]
  simp only [Locals.defines_eq]
  rw [Bool.eq_iff_iff, List.any_eq_true, List.findSome?_isSome_iff]

theorem mem_visibleNames_iff_get : name ∈ f.visibleNames b ↔ (f.get b name).isSome = true := by
  rw [mem_visibleNames, ← resolves_eq_get, resolves, List.any_eq_true]

end Forest
end ScopeChain
