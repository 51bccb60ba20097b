/-
Containers inside containers.

A container is cyclic if it is somewhere inside itself.  A value nests within a number of levels
if no way into it leads through more containers than that, and then nothing that it holds is
cyclic.  What nests and is writable spells out a tree of as many levels, in the heap in which
tuples are lists.
-/
import ScopeChain.Proofs.Snapshot.Capture

namespace ScopeChain

namespace Json

def Moderate (n : Nat) (j : Json) : Prop := j.levels ≤ n ∧ j.hasLongInteger = false

theorem moderate_object {n : Nat} {members : List (String × Json)}
    (all : ∀ m ∈ members, Moderate n m.2) : Moderate (n + 1) (.object members) :=
  ⟨Json.levels_object_le.mpr fun m hm => (all m hm).1,
    Json.memberLongInteger_eq_false.mpr fun m hm => (all m hm).2⟩

end Json

def Container.listed : Container → Container
  | .tuple items => .list items
  | c => c

namespace Heap

variable {h : Heap} {v w : Value} {id : ContainerId} {c : Container} {n : Nat}

/-! ## Inside a container -/

theorem eq_of_items? {items : List Value} (found : h.get? id = some c)
    (has : h.items? (.container id) = some items) : c = .list items ∨ c = .tuple items := by
  obtain ⟨_, heq, hget | hget⟩ := items?_eq_some.mp has
  · cases heq
    exact Or.inl (Option.some.inj (found.symm.trans hget))
  · cases heq
    exact Or.inr (Option.some.inj (found.symm.trans hget))

theorem eq_of_dict? {entries : Metadata} (found : h.get? id = some c)
    (has : h.dict? (.container id) = some entries) : c = .dict entries := by
  obtain ⟨_, heq, hget⟩ := dict?_eq_some.mp has
  cases heq
  exact Option.some.inj (found.symm.trans hget)

theorem holds_of_values (found : h.get? id = some c) (mem : v ∈ c.values) (held : h.Holds v w) :
    h.Holds (.container id) w := by
  cases c with
  | list items => exact .item (items?_eq_some.mpr ⟨id, rfl, Or.inl found⟩) mem held
  | tuple items => exact .item (items?_eq_some.mpr ⟨id, rfl, Or.inr found⟩) mem held
  | dict entries =>
    obtain ⟨⟨k, v⟩, hmem, rfl⟩ := List.mem_map.mp mem
    exact .entry (dict?_eq_some.mpr ⟨id, rfl, found⟩) hmem held

def Inside (h : Heap) (id : ContainerId) (w : Value) : Prop :=
  ∃ c v, h.get? id = some c ∧ v ∈ c.values ∧ h.Holds v w

/-- Whether a container is inside itself. -/
def Cyclic (h : Heap) (id : ContainerId) : Prop := h.Inside id (.container id)

theorem holds_cases (held : h.Holds v w) : v = w ∨ ∃ id, v = .container id ∧ h.Inside id w := by
  cases held with
  | self => exact Or.inl rfl
  | item found mem held =>
    obtain ⟨id, rfl, hget | hget⟩ := items?_eq_some.mp found
    · exact Or.inr ⟨id, rfl, _, _, hget, mem, held⟩
    · exact Or.inr ⟨id, rfl, _, _, hget, mem, held⟩
  | entry found mem held =>
    obtain ⟨id, rfl, hget⟩ := dict?_eq_some.mp found
    exact Or.inr ⟨id, rfl, _, _, hget, List.mem_map_of_mem mem, held⟩

theorem Holds.trans {u : Value} (first : h.Holds v w) (second : h.Holds w u) : h.Holds v u := by
  induction first with
  | self v => exact second
  | item found mem _ ih => exact .item found mem (ih second)
  | entry found mem _ ih => exact .entry found mem (ih second)

theorem Inside.holds (inside : h.Inside id w) : h.Holds (.container id) w := by
  obtain ⟨c, v, found, mem, held⟩ := inside
  exact holds_of_values found mem held

theorem Inside.trans {u : Value} (inside : h.Inside id w) (held : h.Holds w u) :
    h.Inside id u := by
  obtain ⟨c, v, found, mem, first⟩ := inside
  exact ⟨c, v, found, mem, first.trans held⟩

/-! ## Levels -/

/-- Whether no way into a value leads through more than `n` containers. -/
inductive Nests (h : Heap) : Nat → Value → Prop where
  | data {n : Nat} {v : Value} (data : ∀ id, v ≠ .container id) : Nests h n v
  | container {n : Nat} {id : ContainerId} {c : Container} (found : h.get? id = some c)
    (inside : ∀ w ∈ c.values, Nests h n w) : Nests h (n + 1) (.container id)

/-- What is held nests as deep as the holder does at most. -/
theorem Nests.of_holds (nests : h.Nests n v) (held : h.Holds v w) : ∃ m ≤ n, h.Nests m w := by
  induction nests with
  | @data n v data =>
    rcases holds_cases held with rfl | ⟨id, rfl, -⟩
    · exact ⟨n, Nat.le_refl n, .data data⟩
    · exact absurd rfl (data id)
  | @container n id c found inside ih =>
    rcases holds_cases held with rfl | ⟨id', heq, c', v, found', mem, held⟩
    · exact ⟨n + 1, Nat.le_refl _, .container found inside⟩
    · cases heq
      rw [found] at found'
      cases found'
      obtain ⟨m, hm, hnests⟩ := ih v mem held
      exact ⟨m, by omega, hnests⟩

/-- A container that nests is not inside itself: on the way back to itself it would have to nest in
fewer levels, and in fewer again. -/
theorem Nests.not_cyclic (nests : h.Nests n (.container id)) : ¬ h.Cyclic id := by
  intro cyclic
  induction n using Nat.strongRecOn with
  | _ n ih =>
    cases nests with
    | data data => exact data id rfl
    | @container n _ c found inside =>
      obtain ⟨c', v, found', mem, held⟩ := cyclic
      rw [found] at found'
      cases found'
      obtain ⟨m, hm, hnests⟩ := (inside v mem).of_holds held
      exact ih m (by omega) hnests

/-! ## Tuples as lists -/

def listed (h : Heap) : Heap where
  cells := h.cells.map Container.listed

theorem get?_listed (h : Heap) (id : ContainerId) :
    h.listed.get? id = (h.get? id).map Container.listed := by
  simp [get?, listed]

theorem items?_listed (h : Heap) (v : Value) : h.listed.items? v = h.items? v := by
  cases v with
  | container id =>
    simp only [items?, get?_listed]
    rcases h.get? id with _ | (_ | _ | _) <;> rfl
  | _ => rfl

theorem dict?_listed (h : Heap) (v : Value) : h.listed.dict? v = h.dict? v := by
  cases v with
  | container id =>
    simp only [dict?, get?_listed]
    rcases h.get? id with _ | (_ | _ | _) <;> rfl
  | _ => rfl

theorem Proper.listed (proper : h.Proper) : h.listed.Proper := by
  intro id entries found
  have hdict : h.listed.dict? (.container id) = some entries := dict?_eq_some.mpr ⟨id, rfl, found⟩
  rw [dict?_listed] at hdict
  obtain ⟨id', heq, found'⟩ := dict?_eq_some.mp hdict
  cases heq
  exact proper id entries found'

theorem spells_items {items : List Value} {js : List Json}
    (found : h.items? (.container id) = some items) (all : h.listed.SpellsItems items js) :
    h.listed.Spells (.container id) (.array js) := by
  refine ⟨id, items, rfl, ?_, all⟩
  rw [get?_listed]
  obtain ⟨id', heq, hget | hget⟩ := items?_eq_some.mp found
  · cases heq
    rw [hget]
    rfl
  · cases heq
    rw [hget]
    rfl

theorem spells_entries {entries : Metadata} {members : List (String × Json)}
    (found : h.dict? (.container id) = some entries)
    (all : h.listed.SpellsMembers entries members) :
    h.listed.Spells (.container id) (.object members) := by
  refine ⟨id, entries, rfl, ?_, all⟩
  rw [← dict?_listed] at found
  obtain ⟨id', heq, hget⟩ := dict?_eq_some.mp found
  cases heq
  exact hget

theorem spells_container_cases {j : Json} (spelled : h.listed.Spells (.container id) j) :
    (∃ items js, j = .array js ∧ h.items? (.container id) = some items ∧
      h.listed.SpellsItems items js) ∨
    ∃ entries members, j = .object members ∧ h.dict? (.container id) = some entries ∧
      h.listed.SpellsMembers entries members := by
  cases j with
  | array js =>
    obtain ⟨_, items, heq, found, hitems⟩ := spelled
    cases heq
    refine Or.inl ⟨items, js, rfl, ?_, hitems⟩
    rw [← items?_listed]
    exact items?_eq_some.mpr ⟨id, rfl, Or.inl found⟩
  | object members =>
    obtain ⟨_, entries, heq, found, hmembers⟩ := spelled
    cases heq
    refine Or.inr ⟨entries, members, rfl, ?_, hmembers⟩
    rw [← dict?_listed]
    exact dict?_eq_some.mpr ⟨id, rfl, found⟩
  | float x => exact spelled.elim
  | _ => cases spelled

/-! ## Trees of what nests -/

/-- Whether a value is one that JSON has: null, a boolean, a text, an integer that is not too long,
or a container, and then with texts for keys if it is a dict. -/
def Writable (h : Heap) : Value → Prop
  | .null | .bool _ | .text _ => True
  | .int i => (Digits.ofNat i.natAbs).length ≤ Json.digitLimit
  | .container id => ∃ c, h.get? id = some c ∧ ∀ entries, c = .dict entries → KeysText entries
  | _ => False

theorem exists_spellsMembers {entries : Metadata} (texts : KeysText entries)
    (all : ∀ v ∈ entries.map Prod.snd, ∃ j, h.Spells v j ∧ Json.Moderate n j) :
    ∃ members, h.SpellsMembers entries members ∧ ∀ m ∈ members, Json.Moderate n m.2 := by
  have hpartner : ∀ e ∈ entries, ∃ m : String × Json,
      e.1 = .text m.1 ∧ h.Spells e.2 m.2 ∧ Json.Moderate n m.2 := by
    intro e he
    obtain ⟨name, hname⟩ := texts e he
    obtain ⟨j, hj⟩ := all e.2 (List.mem_map_of_mem he)
    exact ⟨(name, j), hname, hj⟩
  obtain ⟨members, hmembers⟩ := Listwise.exists_partners hpartner
  refine ⟨members, spellsMembers_iff.mpr ?_, fun m hm => ?_⟩
  · exact hmembers.imp fun _ _ h => ⟨h.1, h.2.1⟩
  · obtain ⟨e, -, -, -, hmoderate⟩ := Listwise.exists_left hmembers hm
    exact hmoderate

/-- What nests and holds only what is writable spells out a tree. -/
theorem exists_spells (nests : h.Nests n v) (writable : ∀ w, h.Holds v w → h.Writable w) :
    ∃ j, h.listed.Spells v j ∧ Json.Moderate (n + 1) j := by
  induction nests with
  | @data n v data =>
    have hwritable := writable v (.self v)
    cases v with
    | null => exact ⟨.null, rfl, by simp [Json.Moderate, Json.levels, Json.hasLongInteger]⟩
    | bool b => exact ⟨.bool b, rfl, by simp [Json.Moderate, Json.levels, Json.hasLongInteger]⟩
    | text s => exact ⟨.text s, rfl, by simp [Json.Moderate, Json.levels, Json.hasLongInteger]⟩
    | int i =>
      have hdigits : (Digits.ofNat i.natAbs).length ≤ Json.digitLimit := hwritable
      exact ⟨.int i, rfl, by simp [Json.Moderate, Json.levels, Json.hasLongInteger, hdigits]⟩
    | container id => exact absurd rfl (data id)
    | _ => exact hwritable.elim
  | @container n id c found inside ih =>
    have hall : ∀ w ∈ c.values, ∃ j, h.listed.Spells w j ∧ Json.Moderate (n + 1) j := fun w hw =>
      ih w hw fun u hu => writable u (holds_of_values found hw hu)
    have hitems : ∀ items, c.values = items → h.items? (.container id) = some items →
        ∃ j, h.listed.Spells (.container id) j ∧ Json.Moderate (n + 2) j := by
      rintro items rfl hfound
      obtain ⟨js, hjs⟩ := Listwise.exists_partners hall
      have hspelled : h.listed.SpellsItems c.values js :=
        spellsItems_iff.mpr (hjs.imp fun _ _ h => h.1)
      refine ⟨.array js, spells_items hfound hspelled, ?_, ?_⟩
      · refine Json.levels_array_le.mpr fun j hj => ?_
        obtain ⟨w, -, -, hmoderate⟩ := Listwise.exists_left hjs hj
        exact hmoderate.1
      · refine Json.anyLongInteger_eq_false.mpr fun j hj => ?_
        obtain ⟨w, -, -, hmoderate⟩ := Listwise.exists_left hjs hj
        exact hmoderate.2
    cases c with
    | list items => exact hitems items rfl (items?_eq_some.mpr ⟨id, rfl, Or.inl found⟩)
    | tuple items => exact hitems items rfl (items?_eq_some.mpr ⟨id, rfl, Or.inr found⟩)
    | dict entries =>
      obtain ⟨c, found', htexts⟩ := writable _ (.self _)
      rw [found] at found'
      cases found'
      obtain ⟨members, hspelled, hmoderate⟩ := exists_spellsMembers (htexts entries rfl) hall
      exact ⟨.object members, spells_entries (dict?_eq_some.mpr ⟨id, rfl, found⟩) hspelled,
        Json.moderate_object hmoderate⟩

end Heap
end ScopeChain
