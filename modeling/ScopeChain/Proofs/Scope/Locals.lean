/-
The variables of one scope after writes.

A name that is written is found with its new value, and with its earlier metadata unless it
was given new, and other names are found as before.  What is listed is what is found, and
sorted variables are those that writing them one after the other binds.
-/
import Mathlib.Data.List.Sort
import ScopeChain.Scope.Entry

namespace ScopeChain

/-- Sorted entries are told apart by what is among them. -/
theorem Entry.Sorted.eq_of_mem_iff {es ds : List Entry} (sorted : Sorted es)
    (sorted' : Sorted ds) (h : ∀ e, e ∈ es ↔ e ∈ ds) : es = ds := by
  have : Std.Irrefl (α := Entry) (·.name < ·.name) := ⟨fun e => String.lt_irrefl e.name⟩
  have : Std.Antisymm (α := Entry) (·.name < ·.name) := ⟨fun d e hde hed =>
    absurd (String.lt_trans hde hed) (String.lt_irrefl d.name)⟩
  exact List.Pairwise.eq_of_mem_iff sorted sorted' (fun {e} => h e)

theorem Entry.metadata_of_mem_insert {name : String} {value : Value} {metadata : Option Metadata}
    {entries : List Entry} {e : Entry} (h : e ∈ insert name value metadata entries) :
    ∀ m ∈ e.metadata, m ∈ metadata ∨ ∃ d ∈ entries, m ∈ d.metadata := by
  intro m hm
  induction entries with
  | nil =>
    simp only [insert, List.mem_singleton] at h
    subst h
    exact Or.inl hm
  | cons d rest ih =>
    simp only [insert] at h
    split at h
    next =>
      rcases List.mem_cons.mp h with rfl | h
      · exact Or.inl hm
      · exact Or.inr ⟨e, h, hm⟩
    next =>
      split at h
      next =>
        rcases List.mem_cons.mp h with rfl | h
        · cases metadata with
          | some n => exact Or.inl hm
          | none => exact Or.inr ⟨d, List.mem_cons_self, hm⟩
        · exact Or.inr ⟨e, List.mem_cons_of_mem _ h, hm⟩
      next =>
        rcases List.mem_cons.mp h with rfl | h
        · exact Or.inr ⟨e, List.mem_cons_self, hm⟩
        · rcases ih h with hnew | ⟨c, hc, hmc⟩
          · exact Or.inl hnew
          · exact Or.inr ⟨c, List.mem_cons_of_mem _ hc, hmc⟩

namespace Locals

theorem find?_set_self (l : Locals) (name : String) (value : Value)
    (metadata : Option Metadata) :
    (l.set name value metadata).find? name =
      some ⟨name, value, metadata.or ((l.find? name).bind (·.metadata))⟩ :=
  Entry.find?_insert_self l.entries name value metadata l.sorted

theorem find?_set_of_ne (l : Locals) {name other : String} (value : Value)
    (metadata : Option Metadata) (h : other ≠ name) :
    (l.set name value metadata).find? other = l.find? other :=
  Entry.find?_insert_of_ne l.entries value metadata h

theorem mem_entries_iff (l : Locals) {e : Entry} : e ∈ l.entries ↔ l.find? e.name = some e := by
  constructor
  · intro he
    rw [find?]
    have hsorted := l.sorted
    generalize l.entries = entries at he hsorted
    induction entries with
    | nil => cases he
    | cons d rest ih =>
      obtain ⟨hd, hrest⟩ := List.pairwise_cons.mp hsorted
      rcases List.mem_cons.mp he with rfl | he
      · rw [List.find?_cons_of_pos (by simp)]
      · have hlt : d.name < e.name := hd e he
        have hne : d.name ≠ e.name := fun heq => String.lt_irrefl _ (heq ▸ hlt)
        rw [List.find?_cons_of_neg (by simpa using hne)]
        exact ih he hrest
  · exact fun h => List.mem_of_find?_eq_some h

/-- Variables are told apart by what is found of a name. -/
theorem eq_of_find? {l k : Locals} (h : ∀ name, l.find? name = k.find? name) : l = k := by
  refine Locals.ext (l.sorted.eq_of_mem_iff k.sorted fun e => ?_)
  rw [mem_entries_iff, mem_entries_iff, h]

/-! ## Many writes -/

def ofEntries (entries : List Entry) : Locals :=
  entries.foldl (fun l e => l.set e.name e.value e.metadata) .empty

theorem insert_of_greater {name : String} {entries : List Entry}
    (greater : ∀ e ∈ entries, e.name < name) (value : Value) (metadata : Option Metadata) :
    Entry.insert name value metadata entries = entries ++ [⟨name, value, metadata⟩] := by
  induction entries with
  | nil => rfl
  | cons e rest ih =>
    have hlt : e.name < name := greater e List.mem_cons_self
    have hnot : ¬ name < e.name := fun h => String.lt_irrefl _ (String.lt_trans hlt h)
    have hne : name ≠ e.name := by
      rintro rfl
      exact String.lt_irrefl _ hlt
    rw [Entry.insert, if_neg hnot, if_neg hne, ih fun d hd => greater d (List.mem_cons_of_mem _ hd)]
    rfl

theorem entries_ofEntries {entries : List Entry} (sorted : Entry.Sorted entries) :
    (ofEntries entries).entries = entries := by
  have hfold : ∀ (entries : List Entry) (l : Locals), Entry.Sorted (l.entries ++ entries) →
      (entries.foldl (fun l e => l.set e.name e.value e.metadata) l).entries =
        l.entries ++ entries := by
    intro entries
    induction entries with
    | nil => intro l _; simp
    | cons e rest ih =>
      intro l h
      have hgreater : ∀ d ∈ l.entries, d.name < e.name := fun d hd =>
        (List.pairwise_append.mp h).2.2 d hd e List.mem_cons_self
      have hset : (l.set e.name e.value e.metadata).entries = l.entries ++ [e] :=
        insert_of_greater hgreater e.value e.metadata
      rw [List.foldl_cons, ih _ (by rw [hset]; simpa using h), hset, List.append_assoc,
        List.singleton_append]
  exact hfold entries .empty sorted

end Locals
end ScopeChain
