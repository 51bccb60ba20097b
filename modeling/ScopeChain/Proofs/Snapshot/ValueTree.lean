/-
The tree of a value.

Of a value that holds no finite double and no snapshot the tree is legible but for the size
of its integers, and as deep as there are levels.  A value that spells out a tree has that
tree and no other, and it has it wherever there are levels enough: a container that spells
out a tree is not inside itself, since each tree on the way in is smaller than the one
around it.
-/
import ScopeChain.Proofs.Listwise
import ScopeChain.Proofs.Value.Distinct
import ScopeChain.Proofs.Value.Steady
import ScopeChain.Snapshot.Tree

namespace ScopeChain

namespace Snapshot

open Json (Every NamesDistinct NotDouble)

/-! ## Lists of trees -/

theorem itemTrees_eq_ok {tree : Value → Except Refusal Json} {values : List Value}
    {items : List Json} :
    itemTrees tree values = .ok items ↔
      List.Forall₂ (fun v j => tree v = .ok j) values items := by
  induction values generalizing items with
  | nil => simp [itemTrees, eq_comm]
  | cons v rest ih =>
    rw [itemTrees, List.forall₂_cons_left_iff]
    cases htree : tree v with
    | error r => simp
    | ok j =>
      cases hitems : itemTrees tree rest with
      | error r =>
        have hnone : ∀ u, ¬ List.Forall₂ (fun v j => tree v = .ok j) rest u := by
          intro u hu
          rw [ih.mpr hu] at hitems
          cases hitems
        simp [hnone]
      | ok js =>
        have hall := ih.mp hitems
        constructor
        · rintro h
          cases h
          exact ⟨j, js, rfl, hall, rfl⟩
        · rintro ⟨j', js', h, hjs, rfl⟩
          cases h
          rw [ih.mpr hjs] at hitems
          cases hitems
          rfl

/-- The members of a dict have distinct names, and each value among them is the tree of a
value of the dict, if it was not there before. -/
theorem memberTrees_spec {tree : Value → Except Refusal Json} {entries : Metadata}
    {done members : List (String × Json)} (h : memberTrees tree done entries = .ok members) :
    ((done.map Prod.fst).Nodup → (members.map Prod.fst).Nodup) ∧
      ∀ m ∈ members, m ∈ done ∨ ∃ e ∈ entries, tree e.2 = .ok m.2 := by
  induction entries generalizing done with
  | nil =>
    cases h
    exact ⟨id, fun m hm => Or.inl hm⟩
  | cons e rest ih =>
    obtain ⟨k, v⟩ := e
    rw [memberTrees] at h
    split at h
    next => cases h
    next name hname =>
      split at h
      next => cases h
      next j hj =>
        obtain ⟨hnodup, hmem⟩ := ih h
        refine ⟨fun hd => hnodup (Json.nodup_putMember hd name j), fun m hm => ?_⟩
        rcases hmem m hm with hm | ⟨e, he, htree⟩
        · rcases Json.mem_putMember hm with rfl | hm
          · exact Or.inr ⟨(k, v), List.mem_cons_self, hj⟩
          · exact Or.inl hm
        · exact Or.inr ⟨e, List.mem_cons_of_mem _ he, htree⟩

theorem exists_tree_of_memberTrees {tree : Value → Except Refusal Json} {entries : Metadata}
    {done members : List (String × Json)} (h : memberTrees tree done entries = .ok members) :
    ∀ e ∈ entries, ∃ j, tree e.2 = .ok j := by
  induction entries generalizing done with
  | nil => intro e he; cases he
  | cons e rest ih =>
    obtain ⟨k, v⟩ := e
    rw [memberTrees] at h
    split at h
    next => cases h
    next name _ =>
      split at h
      next => cases h
      next j hj =>
        intro e he
        rcases List.mem_cons.mp he with rfl | he
        · exact ⟨j, hj⟩
        · exact ih h e he

theorem memberTrees_texts {tree : Value → Except Refusal Json} {entries : Metadata}
    (done : List (String × Json)) {members : List (String × Json)}
    (all : List.Forall₂ (fun e m => e.1 = .text m.1 ∧ tree e.2 = .ok m.2) entries members)
    (names : ((done ++ members).map Prod.fst).Nodup) :
    memberTrees tree done entries = .ok (done ++ members) := by
  induction all generalizing done with
  | nil => simp [memberTrees]
  | @cons e m entries members hm _ ih =>
    obtain ⟨k, v⟩ := e
    obtain ⟨name, j⟩ := m
    obtain ⟨rfl, htree⟩ := hm
    have hnotin : name ∉ done.map Prod.fst := by
      intro hmem
      rw [List.map_append, List.map_cons] at names
      exact (List.nodup_append.mp names).2.2 name hmem name List.mem_cons_self rfl
    rw [memberTrees]
    simp only [keyText, htree]
    rw [Json.putMember_of_not_mem hnotin, ih _ (by simpa using names)]
    simp

/-- A dict with distinct texts for keys becomes no other members than those whose values are
the trees of its values. -/
theorem eq_of_memberTrees {tree : Value → Except Refusal Json} {entries : Metadata}
    {members found : List (String × Json)}
    (all : List.Forall₂ (fun e m => e.1 = .text m.1 ∧ ∀ j, tree e.2 = .ok j → j = m.2)
      entries members)
    (names : (members.map Prod.fst).Nodup) (h : memberTrees tree [] entries = .ok found) :
    found = members := by
  have hmine := memberTrees_texts [] (Listwise.imp all fun e he m _ hem =>
    show e.1 = .text m.1 ∧ tree e.2 = .ok m.2 by
      obtain ⟨j, hj⟩ := exists_tree_of_memberTrees h e he
      exact ⟨hem.1, hem.2 j hj ▸ hj⟩) names
  rw [hmine] at h
  cases h
  rfl

/-! ## One level -/

theorem valueTree_zero_ne_ok (heap : Heap) (snapshots : Array Snapshot) (path : List Node)
    (v : Value) (j : Json) : valueTree heap snapshots 0 path v ≠ .ok j := by
  rw [valueTree]
  split <;> simp

/-- A container has a tree exactly if it is not inside itself and what it holds has trees one
level down. -/
theorem valueTree_container_eq_ok {heap : Heap} {snapshots : Array Snapshot} {room : Nat}
    {path : List Node} {id : ContainerId} {j : Json} :
    valueTree heap snapshots (room + 1) path (.container id) = .ok j ↔
      Node.container id ∉ path ∧
        ((∃ items js, heap.items? (.container id) = some items ∧
            itemTrees (valueTree heap snapshots room (.container id :: path)) items = .ok js ∧
            j = .array js) ∨
          ∃ entries members, heap.dict? (.container id) = some entries ∧
            memberTrees (valueTree heap snapshots room (.container id :: path)) [] entries =
              .ok members ∧
            j = .object members) := by
  rw [valueTree]
  by_cases hpath : Node.container id ∈ path
  · simp [node?, hpath]
  · cases hget : heap.get? id with
    | none => simp [node?, hpath, hget, Heap.items?, Heap.dict?]
    | some c =>
      cases c with
      | list items =>
        cases htrees : itemTrees (valueTree heap snapshots room (.container id :: path)) items <;>
          simp [node?, hpath, hget, Heap.items?, Heap.dict?, htrees, eq_comm]
      | tuple items =>
        cases htrees : itemTrees (valueTree heap snapshots room (.container id :: path)) items <;>
          simp [node?, hpath, hget, Heap.items?, Heap.dict?, htrees, eq_comm]
      | dict entries =>
        cases htrees :
            memberTrees (valueTree heap snapshots room (.container id :: path)) [] entries <;>
          simp [node?, hpath, hget, Heap.items?, Heap.dict?, htrees, eq_comm]

theorem valueTree_scalar {heap : Heap} {snapshots : Array Snapshot} {room : Nat}
    {path : List Node} {v : Value} (scalar : node? v = none) :
    valueTree heap snapshots (room + 1) path v = scalarTree v := by
  cases v with
  | container id => cases scalar
  | snapshot id => cases scalar
  | _ => rw [valueTree] <;> simp [node?]

/-! ## Steady values -/

theorem scalarTree_steady {v : Value} (steady : v.Steady) {j : Json}
    (h : scalarTree v = .ok j) : Every NamesDistinct j ∧ Every NotDouble j ∧ j.levels = 1 := by
  cases v with
  | float x =>
    have hx : x.isFinite = false := steady
    simp only [scalarTree, hx] at h
    cases h
    exact ⟨trivial, trivial, rfl⟩
  | bytes bs =>
    simp only [scalarTree] at h
    split at h
    next => cases h; exact ⟨trivial, trivial, rfl⟩
    next => cases h
  | null | bool | int | text => cases h; exact ⟨trivial, trivial, rfl⟩
  | container | object | scope | script | snapshot => cases h

/-- The tree of a value that holds no finite double and no snapshot has no double, no two
members of one name, and no more levels than there were. -/
theorem valueTree_steady {heap : Heap} {snapshots : Array Snapshot} {room : Nat}
    {path : List Node} {v : Value} (steady : heap.Steady v) {j : Json}
    (h : valueTree heap snapshots room path v = .ok j) :
    Every NamesDistinct j ∧ Every NotDouble j ∧ j.levels ≤ room := by
  induction room generalizing path v j with
  | zero => exact absurd h (valueTree_zero_ne_ok heap snapshots path v j)
  | succ room ih =>
    cases v with
    | container id =>
      obtain ⟨-, ⟨items, js, found, htrees, rfl⟩ | ⟨entries, members, found, htrees, rfl⟩⟩ :=
        valueTree_container_eq_ok.mp h
      · have hall : ∀ k ∈ js, Every NamesDistinct k ∧ Every NotDouble k ∧ k.levels ≤ room := by
          intro k hk
          obtain ⟨w, hw, hkw⟩ := Listwise.exists_left (itemTrees_eq_ok.mp htrees) hk
          exact ih (fun u hu => steady u (.item found hw hu)) hkw
        exact ⟨Json.every_array.mpr ⟨trivial, fun k hk => (hall k hk).1⟩,
          Json.every_array.mpr ⟨trivial, fun k hk => (hall k hk).2.1⟩,
          Json.levels_array_le.mpr fun k hk => (hall k hk).2.2⟩
      · obtain ⟨hnames, hfrom⟩ := memberTrees_spec htrees
        have hall : ∀ m ∈ members,
            Every NamesDistinct m.2 ∧ Every NotDouble m.2 ∧ m.2.levels ≤ room := by
          intro m hm
          rcases hfrom m hm with hm | ⟨e, he, htree⟩
          · cases hm
          · exact ih (fun u hu => steady u (.entry found he hu)) htree
        exact ⟨Json.every_object.mpr ⟨hnames List.nodup_nil, fun m hm => (hall m hm).1⟩,
          Json.every_object.mpr ⟨trivial, fun m hm => (hall m hm).2.1⟩,
          Json.levels_object_le.mpr fun m hm => (hall m hm).2.2⟩
    | snapshot id => exact (steady _ (.self _)).elim
    | null | bool | int | float | text | bytes | object | scope | script =>
      rw [valueTree_scalar rfl] at h
      obtain ⟨hd, hn, hl⟩ := scalarTree_steady (steady _ (.self _)) h
      exact ⟨hd, hn, by omega⟩

/-! ## Spelled values -/

/-- A value that spells out a tree has no other tree. -/
theorem eq_of_valueTree {heap : Heap} {snapshots : Array Snapshot} {room : Nat}
    {path : List Node} {v : Value} {j k : Json} (spelled : heap.Spells v j)
    (distinct : Every NamesDistinct j) (h : valueTree heap snapshots room path v = .ok k) :
    k = j := by
  induction room generalizing path v j k with
  | zero => exact absurd h (valueTree_zero_ne_ok heap snapshots path v k)
  | succ room ih =>
    cases j with
    | array items =>
      obtain ⟨id, values, rfl, found, hitems⟩ := spelled
      have hvalues : heap.items? (.container id) = some values := by simp [Heap.items?, found]
      obtain ⟨-, ⟨_, js, hfound, htrees, rfl⟩ | ⟨_, _, hfound, -, -⟩⟩ :=
        valueTree_container_eq_ok.mp h
      · cases hvalues.symm.trans hfound
        have heq := Listwise.eq_of_both (f := fun i => i) (itemTrees_eq_ok.mp htrees)
          (Heap.spellsItems_iff.mp hitems) fun v _ k _ j hj htree hspell =>
            ih hspell ((Json.every_array.mp distinct).2 j hj) htree
        rw [heq, List.map_id']
      · simp [Heap.dict?, found] at hfound
    | object members =>
      obtain ⟨id, entries, rfl, found, hmembers⟩ := spelled
      have hentries : heap.dict? (.container id) = some entries := by simp [Heap.dict?, found]
      obtain ⟨-, ⟨_, _, hfound, -, -⟩ | ⟨_, ms, hfound, htrees, rfl⟩⟩ :=
        valueTree_container_eq_ok.mp h
      · simp [Heap.items?, found] at hfound
      · cases hentries.symm.trans hfound
        have heq := eq_of_memberTrees (Listwise.imp (Heap.spellsMembers_iff.mp hmembers)
          fun e _ m hm hem => ⟨hem.1, fun k hk =>
            ih hem.2 ((Json.every_object.mp distinct).2 m hm) hk⟩)
          (Json.every_object.mp distinct).1 htrees
        rw [heq]
    | float x => exact spelled.elim
    | null | bool | int | text =>
      cases spelled
      rw [valueTree_scalar rfl] at h
      cases h
      rfl

/-- A value that spells out a tree has that tree where there are levels enough for it, inside
containers that spell out larger trees. -/
theorem valueTree_of_spells {heap : Heap} (snapshots : Array Snapshot) {room : Nat}
    {path : List Node} {v : Value} {j : Json} (spelled : heap.Spells v j)
    (distinct : Every NamesDistinct j) (enough : j.levels ≤ room)
    (inside : ∀ node ∈ path, ∃ id k, node = .container id ∧
      heap.Spells (.container id) k ∧ j.levels < k.levels) :
    valueTree heap snapshots room path v = .ok j := by
  induction room generalizing path v j with
  | zero => exact absurd enough (Nat.not_le.mpr j.levels_pos)
  | succ room ih =>
    have hpath : ∀ id, v = .container id → Node.container id ∉ path := by
      rintro id rfl hmem
      obtain ⟨id', k, e, hk, hlt⟩ := inside _ hmem
      cases e
      rw [Heap.spells_unique spelled hk] at hlt
      exact Nat.lt_irrefl _ hlt
    have hinside : ∀ id, v = .container id → ∀ i : Json, i.levels < j.levels →
        ∀ node ∈ Node.container id :: path, ∃ id k, node = .container id ∧
          heap.Spells (.container id) k ∧ i.levels < k.levels := by
      rintro id rfl i hlt node hnode
      rcases List.mem_cons.mp hnode with rfl | hnode
      · exact ⟨id, j, rfl, spelled, hlt⟩
      · obtain ⟨id', k, e, hk, hlt'⟩ := inside node hnode
        exact ⟨id', k, e, hk, by omega⟩
    cases j with
    | array items =>
      have hlevels := Json.levels_array_le.mp (Nat.le_refl (Json.itemLevels items + 1))
      obtain ⟨id, values, rfl, found, hitems⟩ := spelled
      refine valueTree_container_eq_ok.mpr ⟨hpath id rfl, Or.inl ⟨values, items, ?_, ?_, rfl⟩⟩
      · simp [Heap.items?, found]
      · refine itemTrees_eq_ok.mpr (Listwise.imp (Heap.spellsItems_iff.mp hitems) ?_)
        intro w _ i hi hspell
        have hlt : i.levels < (Json.array items).levels := Nat.lt_succ_of_le (hlevels i hi)
        exact ih hspell ((Json.every_array.mp distinct).2 i hi) (by omega)
          (hinside id rfl i hlt)
    | object members =>
      have hlevels := Json.levels_object_le.mp (Nat.le_refl (Json.memberLevels members + 1))
      obtain ⟨id, entries, rfl, found, hmembers⟩ := spelled
      refine valueTree_container_eq_ok.mpr ⟨hpath id rfl, Or.inr ⟨entries, members, ?_, ?_, rfl⟩⟩
      · simp [Heap.dict?, found]
      · refine memberTrees_texts [] (Listwise.imp (Heap.spellsMembers_iff.mp hmembers) ?_)
          (Json.every_object.mp distinct).1
        intro e _ m hm hspell
        have hlt : m.2.levels < (Json.object members).levels := Nat.lt_succ_of_le (hlevels m hm)
        exact ⟨hspell.1, ih hspell.2 ((Json.every_object.mp distinct).2 m hm) (by omega)
          (hinside id rfl m.2 hlt)⟩
    | float x => exact spelled.elim
    | null | bool | int | text =>
      cases spelled
      rw [valueTree_scalar rfl]
      rfl

end Snapshot
end ScopeChain
