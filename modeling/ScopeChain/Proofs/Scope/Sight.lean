/-
What is seen of a write.

A lookup takes the nearest scope on a chain that has what is looked for.  So a write to a
scope is seen from another exactly if it is on the chain of that one and nothing nearer has
what was written, and all else is seen as before.
-/
import ScopeChain.Proofs.Listwise
import ScopeChain.Proofs.Scope.Partner
import ScopeChain.Proofs.Scope.Visible

namespace ScopeChain

namespace Locals

variable (l : Locals) {name other : String} (value : Value) (metadata : Option Metadata)

theorem defines_set_self : (l.set name value metadata).defines name = true := by
  rw [defines_eq, value?_set_self]
  rfl

theorem defines_set_of_ne (h : other ≠ name) :
    (l.set name value metadata).defines other = l.defines other := by
  rw [defines_eq, defines_eq, value?_set_of_ne l value metadata h]

end Locals

namespace Forest

/-- Whether a scope is on the chain of `c` and no scope nearer to `c` has what is looked
for. -/
def Nearest (f : Forest) (has : Locals → Bool) (b c : ScopeId) : Prop :=
  ∃ nearer farther, f.chain c = nearer ++ b :: farther ∧ ∀ d ∈ nearer, has (f.locals d) = false

def nearest? {α : Type} (f : Forest) (look : Locals → Option α) (c : ScopeId) : Option α :=
  (f.chain c).findSome? fun d => look (f.locals d)

theorem get_eq_nearest? (f : Forest) (c : ScopeId) (name : String) :
    f.get c name = f.nearest? (·.value? name) c := rfl

theorem metadata_eq_nearest? (f : Forest) (c : ScopeId) (name : String) :
    f.metadata c name = f.nearest? (·.metadata? name) c := rfl

theorem Within.get {f g : Forest} (within : f.Within g) {b : ScopeId} (lt : b < f.size)
    (name : String) : g.get b name = f.get b name := by
  rw [Forest.get, Forest.get, within.toExtends.chain lt]
  refine Listwise.findSome?_congr fun c hc => ?_
  rw [within.locals c (Nat.lt_of_le_of_lt (le_of_mem_chain hc) lt)]

section Write

variable {f : Forest} {b c : ScopeId} {name : String} {value : Value} {metadata : Option Metadata}

/-! ## Lookups -/

section Look

variable {α : Type} {look : Locals → Option α}

theorem ne_of_mem_nearer {nearer farther : List ScopeId}
    (split : f.chain c = nearer ++ b :: farther) {d : ScopeId} (hd : d ∈ nearer) : d ≠ b := by
  have hnodup := nodup_chain f c
  rw [split] at hnodup
  exact (List.nodup_append.mp hnodup).2.2 d hd b List.mem_cons_self

theorem findSome?_nearer_write {nearer farther : List ScopeId}
    (split : f.chain c = nearer ++ b :: farther) :
    nearer.findSome? (fun d => look ((f.write b name value metadata).locals d)) =
      nearer.findSome? fun d => look (f.locals d) :=
  Listwise.findSome?_congr fun _ hd => by rw [locals_write_of_ne f (ne_of_mem_nearer split hd)]

theorem nearest?_write_of_nearest (present : b < f.size)
    (near : f.Nearest (fun l => (look l).isSome) b c) {a : α}
    (has : look ((f.locals b).set name value metadata) = some a) :
    (f.write b name value metadata).nearest? look c = some a := by
  obtain ⟨nearer, farther, hsplit, hnone⟩ := near
  have hnearer : nearer.findSome? (fun d => look (f.locals d)) = none :=
    List.findSome?_eq_none_iff.mpr fun d hd => by simpa using hnone d hd
  rw [nearest?, chain_write, hsplit, List.findSome?_append, findSome?_nearer_write hsplit, hnearer,
    Option.none_or, List.findSome?_cons, locals_write_self present, has]

/-- From elsewhere the same is found as before. -/
theorem nearest?_write_of_not_nearest (far : ¬ f.Nearest (fun l => (look l).isSome) b c) :
    (f.write b name value metadata).nearest? look c = f.nearest? look c := by
  rw [nearest?, nearest?, chain_write]
  by_cases hb : b ∈ f.chain c
  · -- A scope in front of the written one has it, so the search ends there.
    obtain ⟨nearer, farther, hsplit⟩ := List.append_of_mem hb
    have hsome : (nearer.findSome? fun d => look (f.locals d)) ≠ none := by
      intro hnone
      rw [List.findSome?_eq_none_iff] at hnone
      exact far ⟨nearer, farther, hsplit, fun d hd => by simpa using hnone d hd⟩
    obtain ⟨a, ha⟩ := Option.ne_none_iff_exists'.mp hsome
    rw [hsplit, List.findSome?_append, List.findSome?_append, findSome?_nearer_write hsplit, ha,
      Option.some_or, Option.some_or]
  · refine Listwise.findSome?_congr fun d hd => ?_
    have hne : d ≠ b := fun h => hb (h ▸ hd)
    rw [locals_write_of_ne f hne]

/-- What a write leaves as it was is found as before from everywhere. -/
theorem nearest?_write_of_same (present : b < f.size)
    (same : look ((f.locals b).set name value metadata) = look (f.locals b)) :
    (f.write b name value metadata).nearest? look c = f.nearest? look c := by
  rw [nearest?, nearest?, chain_write]
  refine Listwise.findSome?_congr fun d _ => ?_
  by_cases h : d = b
  · subst h
    rw [locals_write_self present, same]
  · rw [locals_write_of_ne f h]

end Look

/-! ## Values and metadata -/

theorem get_write_of_nearest (present : b < f.size) (near : f.Nearest (·.defines name) b c) :
    (f.write b name value metadata).get c name = some value := by
  simp only [Locals.defines_eq] at near
  rw [get_eq_nearest?]
  exact nearest?_write_of_nearest present near (Locals.value?_set_self ..)

theorem get_write_of_not (present : b < f.size) {other : String}
    (h : ¬ (other = name ∧ f.Nearest (·.defines other) b c)) :
    (f.write b name value metadata).get c other = f.get c other := by
  rw [get_eq_nearest?, get_eq_nearest?]
  by_cases hname : other = name
  · have far : ¬ f.Nearest (·.defines other) b c := fun near => h ⟨hname, near⟩
    simp only [Locals.defines_eq] at far
    exact nearest?_write_of_not_nearest far
  · exact nearest?_write_of_same present (Locals.value?_set_of_ne _ _ _ hname)

theorem metadata_write_of_nearest (present : b < f.size)
    (near : f.Nearest (fun l => (l.metadata? name).isSome) b c) {m : Metadata}
    (supplied : metadata = some m) :
    (f.write b name value metadata).metadata c name = some m := by
  rw [metadata_eq_nearest?]
  refine nearest?_write_of_nearest present near ?_
  rw [Locals.metadata?_set_self, supplied, Option.some_or]

theorem metadata_write_of_not (present : b < f.size) {other : String}
    (h : ¬ (metadata.isSome ∧ other = name ∧
      f.Nearest (fun l => (l.metadata? other).isSome) b c)) :
    (f.write b name value metadata).metadata c other = f.metadata c other := by
  rw [metadata_eq_nearest?, metadata_eq_nearest?]
  by_cases hname : other = name
  · subst hname
    cases metadata with
    | none => exact nearest?_write_of_same present (Locals.metadata?_set_self ..)
    | some m => exact nearest?_write_of_not_nearest fun near => h ⟨rfl, rfl, near⟩
  · exact nearest?_write_of_same present (Locals.metadata?_set_of_ne _ _ _ hname)

/-! ## Names -/

theorem defines_write (present : b < f.size) (d : ScopeId) (other : String) :
    ((f.write b name value metadata).locals d).defines other = true ↔
      (f.locals d).defines other = true ∨ d = b ∧ other = name := by
  by_cases h : d = b
  · subst h
    rw [locals_write_self present]
    by_cases hname : other = name
    · subst hname
      simp [Locals.defines_set_self]
    · simp [Locals.defines_set_of_ne _ _ _ hname, hname]
  · rw [locals_write_of_ne f h]
    simp [h]

theorem mem_visibleNames_write (present : b < f.size) {other : String} :
    other ∈ (f.write b name value metadata).visibleNames c ↔
      other ∈ f.visibleNames c ∨ other = name ∧ b ∈ f.chain c := by
  simp only [mem_visibleNames, chain_write, defines_write present]
  constructor
  · rintro ⟨d, hd, hdef | ⟨rfl, rfl⟩⟩
    · exact Or.inl ⟨d, hd, hdef⟩
    · exact Or.inr ⟨rfl, hd⟩
  · rintro (⟨d, hd, hdef⟩ | ⟨rfl, hb⟩)
    · exact ⟨d, hd, Or.inl hdef⟩
    · exact ⟨b, hb, Or.inr ⟨rfl, rfl⟩⟩

/-- All visible names stay as they are where the written scope is not on the chain, or the name
was visible before. -/
theorem visibleNames_write_of_same (present : b < f.size)
    (same : b ∉ f.chain c ∨ name ∈ f.visibleNames c) :
    (f.write b name value metadata).visibleNames c = f.visibleNames c := by
  refine (increasing_visibleNames ..).eq_of_mem_iff (increasing_visibleNames ..) fun other => ?_
  rw [mem_visibleNames_write present, or_iff_left_iff_imp]
  rintro ⟨rfl, hb⟩
  exact same.resolve_left (not_not_intro hb)

end Write
end Forest
end ScopeChain
