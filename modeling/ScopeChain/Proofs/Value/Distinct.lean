/-
Dicts whose keys are distinct.

Writing a key keeps the keys of a dict distinct, and so all dicts of a session are.  A value
of such dicts spells out only trees in which no object has two members of one name.
-/
import ScopeChain.Proofs.Value.Spelled

namespace ScopeChain

/-- No key of a dict comes again behind it. -/
def KeysDistinct (entries : Metadata) : Prop :=
  entries.Pairwise fun d e => d.1.same e.1 = false

theorem mem_putEntry {key : Key} {value : Value} {entries : Metadata} {e : Key × Value}
    (h : e ∈ putEntry key value entries) :
    (e.1 = key ∨ ∃ d ∈ entries, d.1 = e.1) ∧ (e.2 = value ∨ ∃ d ∈ entries, d.2 = e.2) := by
  induction entries with
  | nil =>
    rw [List.mem_singleton.mp h]
    exact ⟨Or.inl rfl, Or.inl rfl⟩
  | cons d rest ih =>
    obtain ⟨k, v⟩ := d
    simp only [putEntry] at h
    split at h
    next =>
      rcases List.mem_cons.mp h with rfl | h
      · exact ⟨Or.inr ⟨(k, v), List.mem_cons_self, rfl⟩, Or.inl rfl⟩
      · exact ⟨Or.inr ⟨e, List.mem_cons_of_mem _ h, rfl⟩,
          Or.inr ⟨e, List.mem_cons_of_mem _ h, rfl⟩⟩
    next =>
      rcases List.mem_cons.mp h with rfl | h
      · exact ⟨Or.inr ⟨(k, v), List.mem_cons_self, rfl⟩,
          Or.inr ⟨(k, v), List.mem_cons_self, rfl⟩⟩
      · have hmore : ∀ {p : Key × Value → Prop}, (∃ d ∈ rest, p d) → ∃ d ∈ (k, v) :: rest, p d :=
          fun ⟨d, hd, hp⟩ => ⟨d, List.mem_cons_of_mem _ hd, hp⟩
        exact ⟨(ih h).1.imp id hmore, (ih h).2.imp id hmore⟩

theorem keysDistinct_putEntry {entries : Metadata} (h : KeysDistinct entries) (key : Key)
    (value : Value) : KeysDistinct (putEntry key value entries) := by
  induction entries with
  | nil => exact List.pairwise_singleton _ _
  | cons d rest ih =>
    obtain ⟨k, v⟩ := d
    obtain ⟨hd, hr⟩ := List.pairwise_cons.mp h
    simp only [putEntry]
    split
    next => exact List.pairwise_cons.mpr ⟨hd, hr⟩
    next hk =>
      refine List.pairwise_cons.mpr ⟨fun e he => ?_, ih hr⟩
      rcases (mem_putEntry he).1 with hkey | ⟨d, hmem, hkey⟩
      · rw [hkey]
        exact Bool.eq_false_iff.mpr hk
      · rw [← hkey]
        exact hd d hmem

theorem putEntry_of_new {key : Key} {entries : Metadata}
    (h : ∀ e ∈ entries, e.1.same key = false) (value : Value) :
    putEntry key value entries = entries ++ [(key, value)] := by
  induction entries with
  | nil => rfl
  | cons d rest ih =>
    obtain ⟨k, v⟩ := d
    have hk : ¬ k.same key = true := Bool.eq_false_iff.mp (h (k, v) List.mem_cons_self)
    rw [putEntry, if_neg hk, ih (fun e he => h e (List.mem_cons_of_mem _ he)), List.cons_append]

theorem keysDistinct_dictOf (pairs : Metadata) : KeysDistinct (dictOf pairs) := by
  have hfold : ∀ (pairs done : Metadata), KeysDistinct done →
      KeysDistinct (pairs.foldl (fun done p => putEntry p.1 p.2 done) done) := by
    intro pairs
    induction pairs with
    | nil => exact fun _ h => h
    | cons p rest ih => exact fun done h => ih _ (keysDistinct_putEntry h p.1 p.2)
  exact hfold pairs [] List.Pairwise.nil

theorem dictOf_of_distinct {pairs : Metadata} (h : KeysDistinct pairs) : dictOf pairs = pairs := by
  have hfold : ∀ (pairs done : Metadata), KeysDistinct (done ++ pairs) →
      pairs.foldl (fun done p => putEntry p.1 p.2 done) done = done ++ pairs := by
    intro pairs
    induction pairs with
    | nil => intro done _; simp
    | cons p rest ih =>
      intro done h
      have hnew : ∀ e ∈ done, e.1.same p.1 = false := fun e he =>
        (List.pairwise_append.mp h).2.2 e he p List.mem_cons_self
      have hput : putEntry p.1 p.2 done = done ++ [p] := putEntry_of_new hnew p.2
      rw [List.foldl_cons]
      show List.foldl _ (putEntry p.1 p.2 done) rest = done ++ p :: rest
      rw [hput, ih _ (by simpa using h), List.append_assoc, List.singleton_append]
  exact hfold pairs [] h

theorem mem_dictOf {pairs : Metadata} {e : Key × Value} (h : e ∈ dictOf pairs) :
    (∃ d ∈ pairs, d.1 = e.1) ∧ ∃ d ∈ pairs, d.2 = e.2 := by
  have hfold : ∀ (pairs done : Metadata),
      e ∈ pairs.foldl (fun done p => putEntry p.1 p.2 done) done →
        (∃ d ∈ done ++ pairs, d.1 = e.1) ∧ ∃ d ∈ done ++ pairs, d.2 = e.2 := by
    intro pairs
    induction pairs with
    | nil => exact fun done h => ⟨⟨e, by simpa using h, rfl⟩, e, by simpa using h, rfl⟩
    | cons p rest ih =>
      intro done h
      obtain ⟨⟨d, hd, hk⟩, d', hd', hv⟩ := ih _ h
      constructor
      · rcases List.mem_append.mp hd with hd | hd
        · rcases (mem_putEntry hd).1 with hp | ⟨c, hc, hp⟩
          · exact ⟨p, by simp, by rw [← hk, hp]⟩
          · exact ⟨c, by simp [hc], by rw [hp, hk]⟩
        · exact ⟨d, by simp [hd], hk⟩
      · rcases List.mem_append.mp hd' with hd' | hd'
        · rcases (mem_putEntry hd').2 with hp | ⟨c, hc, hp⟩
          · exact ⟨p, by simp, by rw [← hv, hp]⟩
          · exact ⟨c, by simp [hc], by rw [hp, hv]⟩
        · exact ⟨d', by simp [hd'], hv⟩
  simpa using hfold pairs [] h

theorem mem_values_dictOf {pairs : Metadata} {v : Value}
    (mem : v ∈ (dictOf pairs).map Prod.snd) : v ∈ pairs.map Prod.snd := by
  obtain ⟨e, he, rfl⟩ := List.mem_map.mp mem
  obtain ⟨d, hd, heq⟩ := (mem_dictOf he).2
  exact heq ▸ List.mem_map_of_mem hd

theorem Arguments.mem_values_dict {arguments : Arguments} {k : Key} {v : Value}
    (mem : (k, v) ∈ arguments.dict) : v ∈ arguments.map Prod.snd := by
  have hvalues := mem_values_dictOf (List.mem_map_of_mem (f := Prod.snd) mem)
  rwa [List.map_map] at hvalues

theorem keysDistinct_iff_nodup {entries : Metadata} {names : List String}
    (texts : entries.map Prod.fst = names.map Key.text) :
    KeysDistinct entries ↔ names.Nodup := by
  have hpairs : KeysDistinct entries ↔
      (entries.map Prod.fst).Pairwise fun k l => k.same l = false := by
    rw [List.pairwise_map]
    rfl
  rw [hpairs, texts, List.pairwise_map, List.Nodup]
  simp only [Key.same_text, beq_eq_false_iff_ne]

namespace Heap

def Proper (h : Heap) : Prop :=
  ∀ id entries, h.get? id = some (.dict entries) → KeysDistinct entries

theorem keys_of_denotesMembers {h : Heap} {entries : Metadata} {members : List (String × Json)}
    (denoted : h.DenotesMembers entries members) :
    entries.map Prod.fst = members.map fun m => Key.text m.1 := by
  induction members generalizing entries with
  | nil =>
    cases entries with
    | nil => rfl
    | cons e entries => exact denoted.elim
  | cons m members ih =>
    cases entries with
    | nil => exact denoted.elim
    | cons e entries =>
      obtain ⟨hkey, -, hrest⟩ := denoted
      rw [List.map_cons, List.map_cons, ih hrest, ← hkey]

theorem nodup_of_spellsMembers {h : Heap} {entries : Metadata}
    {members : List (String × Json)} (distinct : KeysDistinct entries)
    (spelled : h.SpellsMembers entries members) : (members.map Prod.fst).Nodup := by
  refine (keysDistinct_iff_nodup ?_).mp distinct
  rw [keys_of_denotesMembers spelled.denotes, List.map_map]
  rfl

/- In a tree that a value of a proper heap spells out no object has two members of one
name. -/
mutual
theorem distinct_of_spells {h : Heap} (proper : h.Proper) {v : Value} : ∀ {j : Json},
    h.Spells v j → Json.Every Json.NamesDistinct j
  | .null, _ => trivial
  | .bool _, _ => trivial
  | .int _, _ => trivial
  | .float _, hj => hj.elim
  | .text _, _ => trivial
  | .array _, ⟨_, _, _, _, hitems⟩ => ⟨trivial, distinct_of_spellsItems proper hitems⟩
  | .object _, ⟨id, entries, _, found, hmembers⟩ =>
    ⟨nodup_of_spellsMembers (proper id entries found) hmembers,
      distinct_of_spellsMembers proper hmembers⟩

theorem distinct_of_spellsItems {h : Heap} (proper : h.Proper) :
    ∀ {values : List Value} {items : List Json},
      h.SpellsItems values items → Json.EveryItem Json.NamesDistinct items
  | [], [], _ => trivial
  | _ :: _, _ :: _, hj => ⟨distinct_of_spells proper hj.1, distinct_of_spellsItems proper hj.2⟩

theorem distinct_of_spellsMembers {h : Heap} (proper : h.Proper) :
    ∀ {entries : Metadata} {members : List (String × Json)},
      h.SpellsMembers entries members → Json.EveryMember Json.NamesDistinct members
  | [], [], _ => trivial
  | (_, _) :: _, (_, _) :: _, hj =>
    ⟨distinct_of_spells proper hj.2.1, distinct_of_spellsMembers proper hj.2.2⟩
end

end Heap
end ScopeChain
