/-
Values that denote a tree.

A value denotes a tree if it is built as the tree is, of lists for arrays and of dicts with texts
for keys for objects.  Only data does, and a container inside itself denotes none, since a tree
ends.  A value spells out a tree if it denotes it and no double is in it.  The values made of a
tree denote it.
-/
import Mathlib.Data.List.Forall2
import ScopeChain.Proofs.Json.Tree
import ScopeChain.Value.OfJson

namespace ScopeChain
namespace Heap

/- Whether a value denotes a tree, the items of a list its items, and the entries of a dict its
members, in the same order. -/
mutual
def Denotes (h : Heap) (v : Value) : Json → Prop
  | .null => v = .null
  | .bool b => v = .bool b
  | .int i => v = .int i
  | .float x => v = .float x
  | .text s => v = .text s
  | .array items =>
    ∃ id values, v = .container id ∧ h.get? id = some (.list values) ∧
      DenotesItems h values items
  | .object members =>
    ∃ id entries, v = .container id ∧ h.get? id = some (.dict entries) ∧
      DenotesMembers h entries members

def DenotesItems (h : Heap) : List Value → List Json → Prop
  | [], [] => True
  | v :: values, j :: items => Denotes h v j ∧ DenotesItems h values items
  | _, _ => False

def DenotesMembers (h : Heap) : Metadata → List (String × Json) → Prop
  | [], [] => True
  | (k, v) :: entries, (name, j) :: members =>
    k = .text name ∧ Denotes h v j ∧ DenotesMembers h entries members
  | _, _ => False
end

/- Whether a value spells out a tree, the items of a list its items, and the entries of a dict
its members, in the same order. -/
mutual
def Spells (h : Heap) (v : Value) : Json → Prop
  | .null => v = .null
  | .bool b => v = .bool b
  | .int i => v = .int i
  | .float _ => False
  | .text s => v = .text s
  | .array items =>
    ∃ id values, v = .container id ∧ h.get? id = some (.list values) ∧
      SpellsItems h values items
  | .object members =>
    ∃ id entries, v = .container id ∧ h.get? id = some (.dict entries) ∧
      SpellsMembers h entries members

def SpellsItems (h : Heap) : List Value → List Json → Prop
  | [], [] => True
  | v :: values, j :: items => Spells h v j ∧ SpellsItems h values items
  | _, _ => False

def SpellsMembers (h : Heap) : Metadata → List (String × Json) → Prop
  | [], [] => True
  | (k, v) :: entries, (name, j) :: members =>
    k = .text name ∧ Spells h v j ∧ SpellsMembers h entries members
  | _, _ => False
end

theorem denotesItems_iff {h : Heap} {values : List Value} {items : List Json} :
    h.DenotesItems values items ↔ List.Forall₂ h.Denotes values items := by
  induction items generalizing values with
  | nil => cases values <;> simp [DenotesItems]
  | cons j items ih => cases values <;> simp [DenotesItems, ih]

theorem denotesMembers_iff {h : Heap} {entries : Metadata} {members : List (String × Json)} :
    h.DenotesMembers entries members ↔
      List.Forall₂ (fun e m => e.1 = .text m.1 ∧ h.Denotes e.2 m.2) entries members := by
  induction members generalizing entries with
  | nil => cases entries <;> simp [DenotesMembers]
  | cons m members ih => cases entries <;> simp [DenotesMembers, ih, and_assoc]

theorem spellsItems_iff {h : Heap} {values : List Value} {items : List Json} :
    h.SpellsItems values items ↔ List.Forall₂ h.Spells values items := by
  induction items generalizing values with
  | nil => cases values <;> simp [SpellsItems]
  | cons j items ih => cases values <;> simp [SpellsItems, ih]

theorem spellsMembers_iff {h : Heap} {entries : Metadata} {members : List (String × Json)} :
    h.SpellsMembers entries members ↔
      List.Forall₂ (fun e m => e.1 = .text m.1 ∧ h.Spells e.2 m.2) entries members := by
  induction members generalizing entries with
  | nil => cases entries <;> simp [SpellsMembers]
  | cons m members ih => cases entries <;> simp [SpellsMembers, ih, and_assoc]

/-! ## Doubles -/

/- A value that spells out a tree denotes it. -/
mutual
theorem Spells.denotes {h : Heap} {v : Value} : ∀ {j : Json}, h.Spells v j → h.Denotes v j
  | .null, hj => hj
  | .bool _, hj => hj
  | .int _, hj => hj
  | .float _, hj => hj.elim
  | .text _, hj => hj
  | .array _, ⟨id, values, e, found, hitems⟩ => ⟨id, values, e, found, SpellsItems.denotes hitems⟩
  | .object _, ⟨id, entries, e, found, hmembers⟩ =>
    ⟨id, entries, e, found, SpellsMembers.denotes hmembers⟩

theorem SpellsItems.denotes {h : Heap} : ∀ {values : List Value} {items : List Json},
    h.SpellsItems values items → h.DenotesItems values items
  | [], [], _ => trivial
  | _ :: _, _ :: _, hj => ⟨Spells.denotes hj.1, SpellsItems.denotes hj.2⟩

theorem SpellsMembers.denotes {h : Heap} : ∀ {entries : Metadata}
    {members : List (String × Json)},
    h.SpellsMembers entries members → h.DenotesMembers entries members
  | [], [], _ => trivial
  | (_, _) :: _, (_, _) :: _, hj => ⟨hj.1, Spells.denotes hj.2.1, SpellsMembers.denotes hj.2.2⟩
end

/- A value that denotes a tree without doubles spells it out. -/
mutual
theorem Denotes.spells {h : Heap} {v : Value} : ∀ {j : Json},
    h.Denotes v j → Json.Every Json.NotDouble j → h.Spells v j
  | .null, hj, _ => hj
  | .bool _, hj, _ => hj
  | .int _, hj, _ => hj
  | .float _, _, plain => plain.elim
  | .text _, hj, _ => hj
  | .array _, ⟨id, values, e, found, hitems⟩, plain =>
    ⟨id, values, e, found, DenotesItems.spells hitems plain.2⟩
  | .object _, ⟨id, entries, e, found, hmembers⟩, plain =>
    ⟨id, entries, e, found, DenotesMembers.spells hmembers plain.2⟩

theorem DenotesItems.spells {h : Heap} : ∀ {values : List Value} {items : List Json},
    h.DenotesItems values items → Json.EveryItem Json.NotDouble items → h.SpellsItems values items
  | [], [], _, _ => trivial
  | _ :: _, _ :: _, hj, plain => ⟨Denotes.spells hj.1 plain.1, DenotesItems.spells hj.2 plain.2⟩

theorem DenotesMembers.spells {h : Heap} : ∀ {entries : Metadata}
    {members : List (String × Json)}, h.DenotesMembers entries members →
      Json.EveryMember Json.NotDouble members → h.SpellsMembers entries members
  | [], [], _, _ => trivial
  | (_, _) :: _, (_, _) :: _, hj, plain =>
    ⟨hj.1, Denotes.spells hj.2.1 plain.1, DenotesMembers.spells hj.2.2 plain.2⟩
end

/- A tree that a value spells out has no doubles. -/
mutual
theorem noDouble_of_spells {h : Heap} {v : Value} : ∀ {j : Json},
    h.Spells v j → Json.Every Json.NotDouble j
  | .null, _ => trivial
  | .bool _, _ => trivial
  | .int _, _ => trivial
  | .float _, hj => hj.elim
  | .text _, _ => trivial
  | .array _, ⟨_, _, _, _, hitems⟩ => ⟨trivial, noDouble_of_spellsItems hitems⟩
  | .object _, ⟨_, _, _, _, hmembers⟩ => ⟨trivial, noDouble_of_spellsMembers hmembers⟩

theorem noDouble_of_spellsItems {h : Heap} : ∀ {values : List Value} {items : List Json},
    h.SpellsItems values items → Json.EveryItem Json.NotDouble items
  | [], [], _ => trivial
  | _ :: _, _ :: _, hj => ⟨noDouble_of_spells hj.1, noDouble_of_spellsItems hj.2⟩

theorem noDouble_of_spellsMembers {h : Heap} : ∀ {entries : Metadata}
    {members : List (String × Json)},
    h.SpellsMembers entries members → Json.EveryMember Json.NotDouble members
  | [], [], _ => trivial
  | (_, _) :: _, (_, _) :: _, hj => ⟨noDouble_of_spells hj.2.1, noDouble_of_spellsMembers hj.2.2⟩
end

/-! ## One tree -/

/- A value denotes one tree at most. -/
mutual
theorem denotes_unique {h : Heap} {v : Value} : ∀ {j k : Json},
    h.Denotes v j → h.Denotes v k → j = k
  | .null, k, hj, hk => by
    subst hj
    cases k <;> simp_all [Denotes]
  | .bool b, k, hj, hk => by
    subst hj
    cases k <;> simp_all [Denotes]
  | .int i, k, hj, hk => by
    subst hj
    cases k <;> simp_all [Denotes]
  | .float x, k, hj, hk => by
    subst hj
    cases k <;> simp_all [Denotes]
  | .text s, k, hj, hk => by
    subst hj
    cases k <;> simp_all [Denotes]
  | .array items, k, hj, hk => by
    obtain ⟨id, values, rfl, found, hitems⟩ := hj
    cases k with
    | array items' =>
      obtain ⟨id', values', e, found', hitems'⟩ := hk
      cases e
      rw [found] at found'
      cases found'
      rw [denotesItems_unique hitems hitems']
    | object members =>
      obtain ⟨id', entries, e, found', -⟩ := hk
      cases e
      rw [found] at found'
      cases found'
    | _ => simp_all [Denotes]
  | .object members, k, hj, hk => by
    obtain ⟨id, entries, rfl, found, hmembers⟩ := hj
    cases k with
    | object members' =>
      obtain ⟨id', entries', e, found', hmembers'⟩ := hk
      cases e
      rw [found] at found'
      cases found'
      rw [denotesMembers_unique hmembers hmembers']
    | array items =>
      obtain ⟨id', values, e, found', -⟩ := hk
      cases e
      rw [found] at found'
      cases found'
    | _ => simp_all [Denotes]

theorem denotesItems_unique {h : Heap} : ∀ {values : List Value} {js ks : List Json},
    h.DenotesItems values js → h.DenotesItems values ks → js = ks
  | [], [], [], _, _ => rfl
  | _ :: _, _ :: _, _ :: _, hj, hk => by
    rw [denotes_unique hj.1 hk.1, denotesItems_unique hj.2 hk.2]

theorem denotesMembers_unique {h : Heap} : ∀ {entries : Metadata} {js ks : List (String × Json)},
    h.DenotesMembers entries js → h.DenotesMembers entries ks → js = ks
  | [], [], [], _, _ => rfl
  | (_, _) :: _, (_, _) :: _, (_, _) :: _, hj, hk => by
    obtain ⟨rfl, hj, hjs⟩ := hj
    obtain ⟨hname, hk, hks⟩ := hk
    cases hname
    rw [denotes_unique hj hk, denotesMembers_unique hjs hks]
end

theorem spells_unique {h : Heap} {v : Value} {j k : Json} (hj : h.Spells v j)
    (hk : h.Spells v k) : j = k :=
  denotes_unique hj.denotes hk.denotes

/-! ## Larger heaps -/

def Within (h h' : Heap) : Prop := ∀ id c, h.get? id = some c → h'.get? id = some c

theorem within_refl (h : Heap) : h.Within h := fun _ _ found => found

theorem Within.trans {h h' h'' : Heap} (first : h.Within h') (second : h'.Within h'') :
    h.Within h'' :=
  fun id c found => second id c (first id c found)

theorem within_alloc (h : Heap) (c : Container) : h.Within (h.alloc c).2 := by
  intro id d found
  have lt : id < h.cells.size := (Array.getElem?_eq_some_iff.mp found).1
  rw [get?_alloc_of_lt lt]
  exact found

/- A larger heap does not change what a value denotes. -/
mutual
theorem Denotes.mono {h h' : Heap} (within : h.Within h') {v : Value} : ∀ {j : Json},
    h.Denotes v j → h'.Denotes v j
  | .null, hj => hj
  | .bool _, hj => hj
  | .int _, hj => hj
  | .float _, hj => hj
  | .text _, hj => hj
  | .array _, ⟨id, values, e, found, hitems⟩ =>
    ⟨id, values, e, within _ _ found, DenotesItems.mono within hitems⟩
  | .object _, ⟨id, entries, e, found, hmembers⟩ =>
    ⟨id, entries, e, within _ _ found, DenotesMembers.mono within hmembers⟩

theorem DenotesItems.mono {h h' : Heap} (within : h.Within h') :
    ∀ {values : List Value} {items : List Json},
      h.DenotesItems values items → h'.DenotesItems values items
  | [], [], _ => trivial
  | _ :: _, _ :: _, hj => ⟨Denotes.mono within hj.1, DenotesItems.mono within hj.2⟩

theorem DenotesMembers.mono {h h' : Heap} (within : h.Within h') :
    ∀ {entries : Metadata} {members : List (String × Json)},
      h.DenotesMembers entries members → h'.DenotesMembers entries members
  | [], [], _ => trivial
  | (_, _) :: _, (_, _) :: _, hj =>
    ⟨hj.1, Denotes.mono within hj.2.1, DenotesMembers.mono within hj.2.2⟩
end

/-! ## Values made of trees -/

/- The heap grows by the containers of a tree. -/
mutual
theorem within_ofJson : ∀ (j : Json) (h : Heap), h.Within (h.ofJson j).2
  | .null, h => within_refl h
  | .bool _, h => within_refl h
  | .int _, h => within_refl h
  | .float _, h => within_refl h
  | .text _, h => within_refl h
  | .array items, h => (within_ofItems items h).trans (within_alloc _ _)
  | .object members, h => (within_ofMembers members h).trans (within_alloc _ _)

theorem within_ofItems : ∀ (items : List Json) (h : Heap), h.Within (h.ofItems items).2
  | [], h => within_refl h
  | j :: items, h => (within_ofJson j h).trans (within_ofItems items _)

theorem within_ofMembers : ∀ (members : List (String × Json)) (h : Heap),
    h.Within (h.ofMembers members).2
  | [], h => within_refl h
  | (_, j) :: members, h => (within_ofJson j h).trans (within_ofMembers members _)
end

/- The value made of a tree denotes it. -/
mutual
theorem denotes_ofJson : ∀ (j : Json) (h : Heap), (h.ofJson j).2.Denotes (h.ofJson j).1 j
  | .null, _ => rfl
  | .bool _, _ => rfl
  | .int _, _ => rfl
  | .float _, _ => rfl
  | .text _, _ => rfl
  | .array items, h =>
    ⟨_, _, rfl, get?_alloc_self _ _,
      DenotesItems.mono (within_alloc _ _) (denotes_ofItems items h)⟩
  | .object members, h =>
    ⟨_, _, rfl, get?_alloc_self _ _,
      DenotesMembers.mono (within_alloc _ _) (denotes_ofMembers members h)⟩

theorem denotes_ofItems : ∀ (items : List Json) (h : Heap),
    (h.ofItems items).2.DenotesItems (h.ofItems items).1 items
  | [], _ => trivial
  | j :: items, h =>
    ⟨Denotes.mono (within_ofItems items _) (denotes_ofJson j h), denotes_ofItems items _⟩

theorem denotes_ofMembers : ∀ (members : List (String × Json)) (h : Heap),
    (h.ofMembers members).2.DenotesMembers (h.ofMembers members).1 members
  | [], _ => trivial
  | (_, j) :: members, h =>
    ⟨rfl, Denotes.mono (within_ofMembers members _) (denotes_ofJson j h),
      denotes_ofMembers members _⟩
end

end Heap
end ScopeChain
