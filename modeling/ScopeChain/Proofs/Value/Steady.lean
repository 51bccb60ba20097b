/-
What values hold.

A value holds itself and what its items or its entries hold.  Keys are not held: they are
data.  A value is steady if it holds no finite double and no snapshot, so that nothing of it
is written as a number with a fraction or as a chain of scopes.
-/
import ScopeChain.Proofs.Listwise
import ScopeChain.Proofs.Value.Spelled
import ScopeChain.Scope.Entry

namespace ScopeChain

namespace Container

def values : Container → List Value
  | .list items | .tuple items => items
  | .dict entries => entries.map Prod.snd

end Container

/-- A value that is no finite double and no snapshot.  NaN and the infinities have a tree
without a double, which is null. -/
def Value.Steady : Value → Prop
  | .float x => x.isFinite = false
  | .snapshot _ => False
  | _ => True

instance : DecidablePred Value.Steady := fun v =>
  match v with
  | .float x => inferInstanceAs (Decidable (x.isFinite = false))
  | .snapshot _ => inferInstanceAs (Decidable False)
  | .null | .bool _ | .int _ | .text _ | .bytes _ | .container _ | .object _ | .scope _
  | .script _ => inferInstanceAs (Decidable True)

namespace Heap

/-- Whether a value is another or inside it. -/
inductive Holds (h : Heap) : Value → Value → Prop where
  | self (v : Value) : Holds h v v
  | item {v w u : Value} {items : List Value} (found : h.items? v = some items)
      (mem : w ∈ items) (held : Holds h w u) : Holds h v u
  | entry {v w u : Value} {entries : Metadata} {k : Key} (found : h.dict? v = some entries)
      (mem : (k, w) ∈ entries) (held : Holds h w u) : Holds h v u

def Steady (h : Heap) (v : Value) : Prop := ∀ w, h.Holds v w → w.Steady

theorem items?_eq_some {h : Heap} {v : Value} {items : List Value} :
    h.items? v = some items ↔ ∃ id, v = .container id ∧
      (h.get? id = some (.list items) ∨ h.get? id = some (.tuple items)) := by
  cases v with
  | container id =>
    rcases hget : h.get? id with _ | (_ | _ | _) <;> simp [items?, hget]
  | _ => simp [items?]

theorem dict?_eq_some {h : Heap} {v : Value} {entries : Metadata} :
    h.dict? v = some entries ↔ ∃ id, v = .container id ∧ h.get? id = some (.dict entries) := by
  cases v with
  | container id =>
    rcases hget : h.get? id with _ | (_ | _ | _) <;> simp [dict?, hget]
  | _ => simp [dict?]

/-- What is true of a value, and of all that is in a container of which it is true, is true of all
that the value holds. -/
theorem Holds.closed {h : Heap} {v w : Value} {P : Value → Prop} (first : P v)
    (closed : ∀ id c, P (.container id) → h.get? id = some c → ∀ u ∈ c.values, P u)
    (held : h.Holds v w) : P w := by
  induction held with
  | self v => exact first
  | item found mem _ ih =>
    obtain ⟨id, rfl, hget | hget⟩ := items?_eq_some.mp found
    · exact ih (closed id _ first hget _ mem)
    · exact ih (closed id _ first hget _ mem)
  | entry found mem _ ih =>
    obtain ⟨id, rfl, hget⟩ := dict?_eq_some.mp found
    exact ih (closed id _ first hget _ (List.mem_map_of_mem mem))

/-- What is true of a value, and of all that is in the containers of its heap, is true of all that
the value holds. -/
theorem Holds.of_cells {h : Heap} {v w : Value} {P : Value → Prop}
    (cells : ∀ c ∈ h.cells.toList, ∀ u ∈ c.values, P u) (first : P v) (held : h.Holds v w) :
    P w := by
  refine held.closed first fun id c _ found u hu => ?_
  exact cells c (Array.mem_toList_iff.mpr (Array.mem_of_getElem? found)) u hu

theorem steady_of_cells {h : Heap} (cells : ∀ c ∈ h.cells.toList, ∀ v ∈ c.values, v.Steady)
    {v : Value} (steady : v.Steady) : h.Steady v :=
  fun _ held => held.of_cells cells steady

/-- A value that spells out a tree is steady. -/
theorem steady_of_spells {h : Heap} {v : Value} {j : Json} (spelled : h.Spells v j) :
    h.Steady v := by
  intro w held
  induction held generalizing j with
  | self v =>
    cases v with
    | float x => cases j <;> simp_all [Spells]
    | snapshot id => cases j <;> simp_all [Spells]
    | _ => trivial
  | item found mem _ ih =>
    obtain ⟨id, rfl, hget⟩ := items?_eq_some.mp found
    cases j with
    | array items =>
      obtain ⟨_, values, e, hlist, hitems⟩ := spelled
      cases e
      rw [hlist] at hget
      obtain hget | hget := hget <;> cases hget
      obtain ⟨k, -, hk⟩ := Listwise.exists_right (spellsItems_iff.mp hitems) mem
      exact ih hk
    | object members =>
      obtain ⟨_, entries, e, hdict, -⟩ := spelled
      cases e
      rw [hdict] at hget
      obtain hget | hget := hget <;> cases hget
    | _ => simp_all [Spells]
  | entry found mem _ ih =>
    obtain ⟨id, rfl, hget⟩ := dict?_eq_some.mp found
    cases j with
    | object members =>
      obtain ⟨_, entries, e, hdict, hmembers⟩ := spelled
      cases e
      rw [hdict] at hget
      cases hget
      obtain ⟨m, -, hm⟩ := Listwise.exists_right (spellsMembers_iff.mp hmembers) mem
      exact ih hm.2
    | array items =>
      obtain ⟨_, values, e, hlist, -⟩ := spelled
      cases e
      rw [hlist] at hget
      cases hget
    | _ => simp_all [Spells]

end Heap

namespace Entry

def Steady (h : Heap) (e : Entry) : Prop :=
  h.Steady e.value ∧ ∀ m ∈ e.metadata, ∀ p ∈ m, h.Steady p.2

end Entry
end ScopeChain
