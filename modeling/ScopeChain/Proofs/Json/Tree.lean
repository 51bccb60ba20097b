/-
Facts that hold throughout a tree, and the depth of a tree.

The names in a tree are distinct if no object has two members of one name, of which a reader
keeps the last.
-/
import ScopeChain.Json.Basic

namespace ScopeChain
namespace Json

/- Whether every tree inside a tree, and the tree itself, satisfies `p`. -/
mutual
def Every (p : Json → Prop) : Json → Prop
  | .array items => p (.array items) ∧ EveryItem p items
  | .object members => p (.object members) ∧ EveryMember p members
  | j => p j

def EveryItem (p : Json → Prop) : List Json → Prop
  | [] => True
  | x :: rest => Every p x ∧ EveryItem p rest

def EveryMember (p : Json → Prop) : List (String × Json) → Prop
  | [] => True
  | (_, x) :: rest => Every p x ∧ EveryMember p rest
end

/- How many trees are inside each other at most. -/
mutual
def levels : Json → Nat
  | .array items => itemLevels items + 1
  | .object members => memberLevels members + 1
  | _ => 1

def itemLevels : List Json → Nat
  | [] => 0
  | x :: rest => max (levels x) (itemLevels rest)

def memberLevels : List (String × Json) → Nat
  | [] => 0
  | (_, x) :: rest => max (levels x) (memberLevels rest)
end

theorem everyItem_iff {p : Json → Prop} {items : List Json} :
    EveryItem p items ↔ ∀ x ∈ items, Every p x := by
  induction items with
  | nil => simp [EveryItem]
  | cons x rest ih => simp [EveryItem, ih]

theorem everyMember_iff {p : Json → Prop} {members : List (String × Json)} :
    EveryMember p members ↔ ∀ m ∈ members, Every p m.2 := by
  induction members with
  | nil => simp [EveryMember]
  | cons m rest ih => simp [EveryMember, ih]

theorem every_array {p : Json → Prop} {items : List Json} :
    Every p (.array items) ↔ p (.array items) ∧ ∀ x ∈ items, Every p x := by
  rw [Every, everyItem_iff]

theorem every_object {p : Json → Prop} {members : List (String × Json)} :
    Every p (.object members) ↔ p (.object members) ∧ ∀ m ∈ members, Every p m.2 := by
  rw [Every, everyMember_iff]

theorem itemLevels_le {items : List Json} {n : Nat} :
    itemLevels items ≤ n ↔ ∀ x ∈ items, levels x ≤ n := by
  induction items with
  | nil => simp [itemLevels]
  | cons x rest ih => rw [itemLevels, Nat.max_le, ih, List.forall_mem_cons]

theorem memberLevels_le {members : List (String × Json)} {n : Nat} :
    memberLevels members ≤ n ↔ ∀ m ∈ members, levels m.2 ≤ n := by
  induction members with
  | nil => simp [memberLevels]
  | cons m rest ih => rw [memberLevels, Nat.max_le, ih, List.forall_mem_cons]

theorem levels_array_le {items : List Json} {n : Nat} :
    levels (.array items) ≤ n + 1 ↔ ∀ x ∈ items, levels x ≤ n := by
  rw [levels, Nat.add_le_add_iff_right, itemLevels_le]

theorem levels_object_le {members : List (String × Json)} {n : Nat} :
    levels (.object members) ≤ n + 1 ↔ ∀ m ∈ members, levels m.2 ≤ n := by
  rw [levels, Nat.add_le_add_iff_right, memberLevels_le]

theorem levels_pos (j : Json) : 0 < j.levels := by
  cases j <;> simp [levels]

theorem anyLongInteger_eq_false {items : List Json} :
    anyLongInteger items = false ↔ ∀ x ∈ items, x.hasLongInteger = false := by
  induction items with
  | nil => simp [anyLongInteger]
  | cons x rest ih => simp [anyLongInteger, ih]

theorem memberLongInteger_eq_false {members : List (String × Json)} :
    memberLongInteger members = false ↔ ∀ m ∈ members, m.2.hasLongInteger = false := by
  induction members with
  | nil => simp [memberLongInteger]
  | cons m rest ih => simp [memberLongInteger, ih]

/-! ## Names and doubles -/

/-- No two members of an object have one name.  Other trees have no members. -/
def NamesDistinct : Json → Prop
  | .object members => (members.map Prod.fst).Nodup
  | _ => True

def NotDouble : Json → Prop
  | .float _ => False
  | _ => True

def FiniteDouble : Json → Prop
  | .float x => x.isFinite = true
  | _ => True

theorem finiteDouble_of_notDouble : ∀ {j : Json}, NotDouble j → FiniteDouble j
  | .float _, h => h.elim
  | .null, _ | .bool _, _ | .int _, _ | .text _, _ | .array _, _ | .object _, _ => trivial

/- What holds wherever something stronger does holds throughout a tree. -/
mutual
theorem Every.imp {p q : Json → Prop} (h : ∀ j, p j → q j) : ∀ {j : Json}, Every p j → Every q j
  | .null, hj => h _ hj
  | .bool _, hj => h _ hj
  | .int _, hj => h _ hj
  | .float _, hj => h _ hj
  | .text _, hj => h _ hj
  | .array _, hj => ⟨h _ hj.1, EveryItem.imp h hj.2⟩
  | .object _, hj => ⟨h _ hj.1, EveryMember.imp h hj.2⟩

theorem EveryItem.imp {p q : Json → Prop} (h : ∀ j, p j → q j) :
    ∀ {items : List Json}, EveryItem p items → EveryItem q items
  | [], _ => trivial
  | _ :: _, hj => ⟨Every.imp h hj.1, EveryItem.imp h hj.2⟩

theorem EveryMember.imp {p q : Json → Prop} (h : ∀ j, p j → q j) :
    ∀ {members : List (String × Json)}, EveryMember p members → EveryMember q members
  | [], _ => trivial
  | (_, _) :: _, hj => ⟨Every.imp h hj.1, EveryMember.imp h hj.2⟩
end

/-! ## Writing members -/

theorem putMember_of_not_mem {name : String} {members : List (String × Json)}
    (h : name ∉ members.map Prod.fst) (value : Json) :
    putMember name value members = members ++ [(name, value)] := by
  induction members with
  | nil => rfl
  | cons m rest ih =>
    obtain ⟨n, v⟩ := m
    simp only [List.map_cons, List.mem_cons, not_or] at h
    rw [putMember, if_neg (Ne.symm h.1), ih h.2, List.cons_append]

theorem names_putMember (name : String) (value : Json) (members : List (String × Json)) :
    (putMember name value members).map Prod.fst =
      if name ∈ members.map Prod.fst then members.map Prod.fst
      else members.map Prod.fst ++ [name] := by
  induction members with
  | nil => rfl
  | cons m rest ih =>
    obtain ⟨n, v⟩ := m
    by_cases h : n = name
    · simp [putMember, h]
    · simp only [putMember, if_neg h, List.map_cons, ih, List.mem_cons, Ne.symm h, false_or]
      split <;> rfl

theorem nodup_putMember {members : List (String × Json)} (h : (members.map Prod.fst).Nodup)
    (name : String) (value : Json) :
    ((putMember name value members).map Prod.fst).Nodup := by
  rw [names_putMember]
  split
  next => exact h
  next hn =>
    refine List.nodup_append.mpr ⟨h, by simp, fun x hx y hy => ?_⟩
    rw [List.mem_singleton.mp hy]
    exact fun e => hn (e ▸ hx)

theorem mem_putMember {name : String} {value : Json} {members : List (String × Json)}
    {m : String × Json} (h : m ∈ putMember name value members) :
    m = (name, value) ∨ m ∈ members := by
  induction members with
  | nil => exact Or.inl (List.mem_singleton.mp h)
  | cons d rest ih =>
    obtain ⟨n, v⟩ := d
    simp only [putMember] at h
    split at h
    next e =>
      rcases List.mem_cons.mp h with rfl | h
      · exact Or.inl (by rw [e])
      · exact Or.inr (List.mem_cons_of_mem _ h)
    next =>
      rcases List.mem_cons.mp h with rfl | h
      · exact Or.inr List.mem_cons_self
      · exact (ih h).imp id (List.mem_cons_of_mem _)

end Json
end ScopeChain
