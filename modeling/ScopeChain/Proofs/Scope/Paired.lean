/-
Forests that look the same from paired scopes.

Two forests are paired by a map of scopes if along the map scopes have the same variables and
parents go to parents.  Then chains go to chains, so that lookups from a scope and from its
image find the same, and the same writes to both and new scopes inside both keep the pairing.
-/
import ScopeChain.Proofs.Scope.Growth

namespace ScopeChain
namespace Forest

/-- Forests that are paired by `m` on the scopes of `among`.  Scopes that are still to be made
are among them and pair with themselves. -/
structure Paired (m : ScopeId → ScopeId) (among : ScopeId → Prop) (f g : Forest) : Prop where
  size : g.size = f.size
  present : ∀ c, among c → (m c < f.size ↔ c < f.size)
  parent? : ∀ c, among c → g.parent? (m c) = (f.parent? c).map m
  closed : ∀ c, among c → ∀ p, f.parent? c = some p → among p
  locals : ∀ c, among c → g.locals (m c) = f.locals c
  fresh : ∀ c, f.size ≤ c → among c ∧ m c = c
  injective : ∀ c d, among c → among d → m c = m d → c = d

namespace Paired

variable {m : ScopeId → ScopeId} {among : ScopeId → Prop} {f g : Forest} {c : ScopeId}

theorem among_of_mem_chain (paired : Paired m among f g) (hc : among c) :
    ∀ d ∈ f.chain c, among d := by
  induction c using Nat.strongRecOn with
  | _ c ih =>
    intro d hd
    cases hp : f.parent? c with
    | none =>
      rw [chain_of_global hp] at hd
      rw [List.mem_singleton.mp hd]
      exact hc
    | some p =>
      rw [chain_of_parent hp] at hd
      rcases List.mem_cons.mp hd with rfl | hd
      · exact hc
      · exact ih p (lt_of_parent? hp) (paired.closed c hc p hp) d hd

theorem chain (paired : Paired m among f g) (hc : among c) :
    g.chain (m c) = (f.chain c).map m := by
  induction c using Nat.strongRecOn with
  | _ c ih =>
    have hparent := paired.parent? c hc
    cases hp : f.parent? c with
    | none =>
      rw [hp] at hparent
      rw [chain_of_global hp, chain_of_global hparent]
      rfl
    | some p =>
      rw [hp] at hparent
      rw [chain_of_parent hp, chain_of_parent hparent, List.map_cons,
        ih p (lt_of_parent? hp) (paired.closed c hc p hp)]

theorem depth (paired : Paired m among f g) (hc : among c) : g.depth (m c) = f.depth c := by
  have hlength := congrArg List.length (paired.chain hc)
  rw [List.length_map, length_chain, length_chain] at hlength
  omega

theorem isGlobal (paired : Paired m among f g) (hc : among c) :
    g.isGlobal (m c) = f.isGlobal c := by
  rw [Forest.isGlobal, Forest.isGlobal, paired.parent? c hc, Option.isNone_map]

theorem root (paired : Paired m among f g) (hc : among c) : g.root (m c) = m (f.root c) := by
  rw [Forest.root, Forest.root, paired.chain hc, List.getLastD_map]

theorem among_root (paired : Paired m among f g) (hc : among c) : among (f.root c) :=
  paired.among_of_mem_chain hc _ (root_mem_chain f c)

/-! ## Lookups -/

/-- Along a chain and its image there are the same variables. -/
theorem locals_chain (paired : Paired m among f g) (hc : among c) :
    (g.chain (m c)).map g.locals = (f.chain c).map f.locals := by
  rw [paired.chain hc, List.map_map]
  exact List.map_congr_left fun d hd => paired.locals d (paired.among_of_mem_chain hc d hd)

theorem get (paired : Paired m among f g) (hc : among c) (name : String) :
    g.get (m c) name = f.get c name := by
  have hlocals := congrArg (List.findSome? fun l => l.value? name) (paired.locals_chain hc)
  rw [List.findSome?_map, List.findSome?_map] at hlocals
  exact hlocals

theorem metadata (paired : Paired m among f g) (hc : among c) (name : String) :
    g.metadata (m c) name = f.metadata c name := by
  have hlocals := congrArg (List.findSome? fun l => l.metadata? name) (paired.locals_chain hc)
  rw [List.findSome?_map, List.findSome?_map] at hlocals
  exact hlocals

theorem resolves (paired : Paired m among f g) (hc : among c) (name : String) :
    g.resolves (m c) name = f.resolves c name := by
  have hlocals := congrArg (List.any · fun l => l.defines name) (paired.locals_chain hc)
  simp only [List.any_map] at hlocals
  exact hlocals

theorem visibleNames (paired : Paired m among f g) (hc : among c) :
    g.visibleNames (m c) = f.visibleNames c := by
  have hlocals := congrArg (List.foldl (fun names l =>
    l.names.foldl (fun ns n => insertName n ns) names) []) (paired.locals_chain hc)
  rw [List.foldl_map, List.foldl_map] at hlocals
  exact hlocals

/-! ## Changes -/

theorem write (paired : Paired m among f g) (hc : among c) (lt : c < f.size) (name : String)
    (value : Value) (metadata : Option Metadata) :
    Paired m among (f.write c name value metadata) (g.write (m c) name value metadata) where
  size := by rw [size_write, size_write, paired.size]
  present d hd := by
    rw [size_write]
    exact paired.present d hd
  parent? d hd := by
    rw [parent?_write, parent?_write]
    exact paired.parent? d hd
  closed d hd p hp := by
    rw [parent?_write] at hp
    exact paired.closed d hd p hp
  locals d hd := by
    have lt' : m c < g.size := by
      rw [paired.size]
      exact (paired.present c hc).mpr lt
    by_cases h : d = c
    · subst h
      rw [locals_write_self lt, locals_write_self lt', paired.locals d hd]
    · have h' : m d ≠ m c := fun heq => h (paired.injective d c hd hc heq)
      rw [locals_write_of_ne f h, locals_write_of_ne g h', paired.locals d hd]
  fresh d le := by
    rw [size_write] at le
    exact paired.fresh d le
  injective := paired.injective

theorem map_eq_size (paired : Paired m among f g) (hc : among c) :
    m c = f.size ↔ c = f.size := by
  constructor
  · intro h
    rcases Nat.lt_or_ge c f.size with lt | le
    · exact absurd h (Nat.ne_of_lt ((paired.present c hc).mpr lt))
    · rw [← (paired.fresh c le).2, h]
  · intro h
    rw [(paired.fresh c (Nat.le_of_eq h.symm)).2, h]

theorem add (paired : Paired m among f g) (hc : among c) (lt : c < f.size) :
    Paired m among (f.add (some c)).2 (g.add (some (m c))).2 := by
  have lt' : m c < g.size := by
    rw [paired.size]
    exact (paired.present c hc).mpr lt
  refine ⟨?_, fun d hd => ?_, fun d hd => ?_, fun d hd p hp => ?_, fun d hd => ?_,
    fun d le => ?_, paired.injective⟩
  · rw [size_add, size_add, paired.size]
  · rw [size_add]
    rw [Nat.lt_succ_iff_lt_or_eq, Nat.lt_succ_iff_lt_or_eq]
    exact or_congr (paired.present d hd) (paired.map_eq_size hd)
  · rw [parent?_add lt, parent?_add lt', paired.size]
    by_cases h : d = f.size
    · rw [if_pos h, if_pos ((paired.map_eq_size hd).mpr h)]
      rfl
    · rw [if_neg h, if_neg fun heq => h ((paired.map_eq_size hd).mp heq)]
      exact paired.parent? d hd
  · rw [parent?_add lt] at hp
    split at hp
    next => exact Option.some.inj hp ▸ hc
    next => exact paired.closed d hd p hp
  · rw [locals_add, locals_add]
    exact paired.locals d hd
  · rw [size_add] at le
    exact paired.fresh d (Nat.le_of_succ_le le)

end Paired
end Forest
end ScopeChain
