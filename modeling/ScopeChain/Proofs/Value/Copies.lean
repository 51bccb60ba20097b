/-
Copies of values.

A copy of a value has a container of its own for every way that leads to a container in the value:
what is shared there is not shared in the copy.  It spells out what the value spells out, and
whatever nests has one, made of containers that were not there before.
-/
import ScopeChain.Proofs.Value.Nesting

namespace ScopeChain

def Container.refill : Container → List Value → Container
  | .list _, values => .list values
  | .tuple _, values => .tuple values
  | .dict entries, values => .dict ((entries.map Prod.fst).zip values)

def Container.Distinct (c : Container) : Prop :=
  ∀ entries, c = .dict entries → KeysDistinct entries

theorem keysDistinct_of_keys {entries entries' : Metadata}
    (keys : entries'.map Prod.fst = entries.map Prod.fst) (distinct : KeysDistinct entries) :
    KeysDistinct entries' := by
  have hkeys : (entries.map Prod.fst).Pairwise fun k l => k.same l = false :=
    List.pairwise_map.mpr distinct
  rw [← keys] at hkeys
  exact List.pairwise_map.mp hkeys

theorem Container.Distinct.refill {c : Container} {values : List Value} (distinct : c.Distinct)
    (length : values.length = c.values.length) : (c.refill values).Distinct := by
  cases c with
  | list items => exact fun _ h => nomatch h
  | tuple items => exact fun _ h => nomatch h
  | dict entries =>
    have hlength : values.length = (entries.map Prod.snd).length := length
    rintro _ ⟨⟩
    refine keysDistinct_of_keys ?_ (distinct entries rfl)
    exact List.map_fst_zip (by simpa using Nat.le_of_eq hlength.symm)

namespace Heap

variable {h h' h'' : Heap} {n : Nat}

/-! ## Copies -/

/- Whether a value of `h'` is a copy of a value of `h`.  The containers of the copy are listed, as
often as they occur in it. -/
mutual
inductive Copy (h h' : Heap) : Value → Value → List ContainerId → Prop where
  | data {v : Value} (data : ∀ id, v ≠ .container id) : Copy h h' v v []
  | container {id id' : ContainerId} {c : Container} {values : List Value}
    {ids : List ContainerId} (found : h.get? id = some c)
    (made : h'.get? id' = some (c.refill values)) (inside : CopyAll h h' c.values values ids) :
    Copy h h' (.container id) (.container id') (id' :: ids)

inductive CopyAll (h h' : Heap) : List Value → List Value → List ContainerId → Prop where
  | nil : CopyAll h h' [] [] []
  | cons {v v' : Value} {vs vs' : List Value} {ids ids' : List ContainerId}
    (first : Copy h h' v v' ids) (rest : CopyAll h h' vs vs' ids') :
    CopyAll h h' (v :: vs) (v' :: vs') (ids ++ ids')
end

/- A copy stays one in a larger heap. -/
mutual
theorem Copy.mono (within : h'.Within h'') : ∀ {v v' : Value} {ids : List ContainerId},
    Copy h h' v v' ids → Copy h h'' v v' ids
  | _, _, _, .data data => .data data
  | _, _, _, .container found made inside =>
    .container found (within _ _ made) (CopyAll.mono within inside)

theorem CopyAll.mono (within : h'.Within h'') : ∀ {vs vs' : List Value} {ids : List ContainerId},
    CopyAll h h' vs vs' ids → CopyAll h h'' vs vs' ids
  | _, _, _, .nil => .nil
  | _, _, _, .cons first rest => .cons (Copy.mono within first) (CopyAll.mono within rest)
end

theorem CopyAll.length_eq {vs vs' : List Value} {ids : List ContainerId}
    (all : CopyAll h h' vs vs' ids) : vs'.length = vs.length := by
  induction vs generalizing vs' ids with
  | nil =>
    cases all
    rfl
  | cons v vs ih =>
    cases all with
    | cons _ rest => rw [List.length_cons, List.length_cons, ih rest]

/-! ## What copies spell out -/

theorem spellsMembers_iff_items {entries : Metadata} {members : List (String × Json)} :
    h.SpellsMembers entries members ↔
      entries.map Prod.fst = members.map (fun m => Key.text m.1) ∧
        h.SpellsItems (entries.map Prod.snd) (members.map Prod.snd) := by
  induction members generalizing entries with
  | nil => cases entries <;> simp [SpellsMembers, SpellsItems]
  | cons m members ih =>
    cases entries with
    | nil => simp [SpellsMembers]
    | cons e entries =>
      simp only [SpellsMembers, SpellsItems, List.map_cons, List.cons.injEq, ih]
      tauto

theorem spellsMembers_refill {entries : Metadata} {values : List Value}
    {members : List (String × Json)} (length : values.length = (entries.map Prod.snd).length)
    (spelled : h.SpellsMembers entries members)
    (items : h.SpellsItems (entries.map Prod.snd) (members.map Prod.snd) →
      h'.SpellsItems values (members.map Prod.snd)) :
    h'.SpellsMembers ((entries.map Prod.fst).zip values) members := by
  obtain ⟨hkeys, hitems⟩ := spellsMembers_iff_items.mp spelled
  refine spellsMembers_iff_items.mpr ⟨?_, ?_⟩
  · rw [List.map_fst_zip (by simpa using Nat.le_of_eq length.symm), hkeys]
  · rw [List.map_snd_zip (by simpa using Nat.le_of_eq length)]
    exact items hitems

theorem spells_data {v : Value} {j : Json} (data : ∀ id, v ≠ .container id)
    (spelled : h.Spells v j) : h'.Spells v j := by
  cases j with
  | array items =>
    obtain ⟨id, -, heq, -⟩ := spelled
    exact absurd heq (data id)
  | object members =>
    obtain ⟨id, -, heq, -⟩ := spelled
    exact absurd heq (data id)
  | _ => exact spelled

/-- A container around values spells out what another of its kind does, if the values do. -/
theorem spells_refill {id id' : ContainerId} {c : Container} {values : List Value} {j : Json}
    (found : h.get? id = some c) (made : h'.get? id' = some (c.refill values))
    (length : values.length = c.values.length)
    (inside : ∀ js, h.listed.SpellsItems c.values js → h'.listed.SpellsItems values js)
    (spelled : h.listed.Spells (.container id) j) : h'.listed.Spells (.container id') j := by
  rcases spells_container_cases spelled with
    ⟨items, js, rfl, hitems, hspelled⟩ | ⟨entries, members, rfl, hentries, hspelled⟩
  · have hmade : c.values = items ∧ h'.items? (.container id') = some values := by
      rcases eq_of_items? found hitems with rfl | rfl
      · exact ⟨rfl, by simp [items?, made, Container.refill]⟩
      · exact ⟨rfl, by simp [items?, made, Container.refill]⟩
    exact spells_items hmade.2 (inside js (hmade.1 ▸ hspelled))
  · cases eq_of_dict? found hentries
    exact spells_entries (dict?_eq_some.mpr ⟨id', rfl, made⟩)
      (spellsMembers_refill length hspelled (inside _))

/- A copy spells out what the value does. -/
mutual
theorem Copy.spells : ∀ {v v' : Value} {ids : List ContainerId}, Copy h h' v v' ids →
    ∀ {j : Json}, h.listed.Spells v j → h'.listed.Spells v' j
  | _, _, _, .data data, _, spelled => spells_data data spelled
  | _, _, _, .container found made inside, _, spelled =>
    spells_refill found made inside.length_eq (fun _ items => CopyAll.spells inside items) spelled

theorem CopyAll.spells : ∀ {vs vs' : List Value} {ids : List ContainerId},
    CopyAll h h' vs vs' ids →
    ∀ {js : List Json}, h.listed.SpellsItems vs js → h'.listed.SpellsItems vs' js
  | _, _, _, .nil, [], _ => trivial
  | _, _, _, .cons first rest, _ :: _, spelled =>
    ⟨Copy.spells first spelled.1, CopyAll.spells rest spelled.2⟩
end

/-! ## New containers -/

def allocAll (h : Heap) (cs : List Container) : Heap := cs.foldl (fun h c => (h.alloc c).2) h

/-- A heap that is larger by new containers, of which some are listed once each. -/
structure Fresh (h h' : Heap) (ids : List ContainerId) : Prop where
  built : ∃ cs : List Container, (∀ c ∈ cs, c.Distinct) ∧ h' = h.allocAll cs
  within : h.Within h'
  size : h.cells.size ≤ h'.cells.size
  new : ∀ id : Nat, id ∈ ids → h.cells.size ≤ id ∧ id < h'.cells.size
  nodup : ids.Nodup

theorem Fresh.refl (h : Heap) : h.Fresh h [] :=
  ⟨⟨[], fun _ mem => absurd mem List.not_mem_nil, rfl⟩, within_refl h, Nat.le_refl _,
    fun _ mem => absurd mem List.not_mem_nil, List.nodup_nil⟩

theorem Fresh.append {ids ids' : List ContainerId} (first : h.Fresh h' ids)
    (second : h'.Fresh h'' ids') : h.Fresh h'' (ids ++ ids') where
  built := by
    obtain ⟨cs, hdistinct, rfl⟩ := first.built
    obtain ⟨cs', hdistinct', rfl⟩ := second.built
    refine ⟨cs ++ cs', fun c hc => ?_, List.foldl_append.symm⟩
    exact (List.mem_append.mp hc).elim (hdistinct c) (hdistinct' c)
  within := first.within.trans second.within
  size := Nat.le_trans first.size second.size
  new id mem := by
    have hsize := first.size
    have hsize' := second.size
    rcases List.mem_append.mp mem with mem | mem
    · have hnew := first.new id mem
      omega
    · have hnew := second.new id mem
      omega
  nodup := by
    refine List.nodup_append.mpr ⟨first.nodup, second.nodup, fun id mem id' mem' heq => ?_⟩
    have hnew := first.new id mem
    have hnew' := second.new id (heq ▸ mem')
    omega

theorem Fresh.alloc {ids : List ContainerId} (fresh : h.Fresh h' ids) {c : Container}
    (distinct : c.Distinct) : h.Fresh (h'.alloc c).2 ((h'.alloc c).1 :: ids) := by
  have hsize : (h'.alloc c).2.cells.size = h'.cells.size + 1 := by simp [Heap.alloc]
  have hle := fresh.size
  refine ⟨?_, fresh.within.trans (within_alloc h' c), by omega, fun id mem => ?_, ?_⟩
  · obtain ⟨cs, hdistinct, rfl⟩ := fresh.built
    refine ⟨cs ++ [c], fun d hd => ?_, by simp [allocAll]⟩
    rcases List.mem_append.mp hd with hd | hd
    · exact hdistinct d hd
    · rw [List.mem_singleton.mp hd]
      exact distinct
  · rcases List.mem_cons.mp mem with heq | mem
    · have hid : id = h'.cells.size := heq
      omega
    · have hnew := fresh.new id mem
      omega
  · refine List.nodup_cons.mpr ⟨fun mem => ?_, fresh.nodup⟩
    exact Nat.lt_irrefl _ (fresh.new _ mem).2

/-! ## Lists that are copied item by item -/

section Piecewise

variable {α β : Type}

/-- Whether items correspond one by one, each with containers of its own, which are all listed. -/
inductive Piecewise (copy : α → β → List ContainerId → Prop) :
    List α → List β → List ContainerId → Prop where
  | nil : Piecewise copy [] [] []
  | cons {x : α} {y : β} {xs : List α} {ys : List β} {ids ids' : List ContainerId}
    (first : copy x y ids) (rest : Piecewise copy xs ys ids') :
    Piecewise copy (x :: xs) (y :: ys) (ids ++ ids')

theorem Piecewise.imp {copy copy' : α → β → List ContainerId → Prop} {xs : List α} {ys : List β}
    {ids : List ContainerId} (h : ∀ {x y ids}, copy x y ids → copy' x y ids)
    (all : Piecewise copy xs ys ids) : Piecewise copy' xs ys ids := by
  induction all with
  | nil => exact .nil
  | cons first _ ih => exact .cons (h first) ih

theorem Piecewise.forall₂ {copy : α → β → List ContainerId → Prop} {xs : List α} {ys : List β}
    {ids : List ContainerId} (all : Piecewise copy xs ys ids) :
    List.Forall₂ (fun x y => ∃ ids, copy x y ids) xs ys := by
  induction all with
  | nil => exact .nil
  | cons first _ ih => exact .cons ⟨_, first⟩ ih

theorem exists_piecewise (copy : Heap → α → β → List ContainerId → Prop) {xs : List α}
    (mono : ∀ {h h' : Heap} {x y ids}, h.Within h' → copy h x y ids → copy h' x y ids)
    (each : ∀ x ∈ xs, ∀ h : Heap, ∃ y h' ids, h.Fresh h' ids ∧ copy h' x y ids) (h : Heap) :
    ∃ ys h' ids, h.Fresh h' ids ∧ Piecewise (copy h') xs ys ids := by
  induction xs generalizing h with
  | nil => exact ⟨[], h, [], .refl h, .nil⟩
  | cons x xs ih =>
    obtain ⟨y, h₁, ids, hfresh, hcopy⟩ := each x List.mem_cons_self h
    obtain ⟨ys, h₂, ids', hfresh', hrest⟩ := ih (fun z hz => each z (List.mem_cons_of_mem _ hz)) h₁
    exact ⟨y :: ys, h₂, ids ++ ids', hfresh.append hfresh',
      .cons (mono hfresh'.within hcopy) hrest⟩

end Piecewise

theorem copyAll_of_piecewise {vs vs' : List Value} {ids : List ContainerId}
    (all : Piecewise (Copy h h') vs vs' ids) : CopyAll h h' vs vs' ids := by
  induction all with
  | nil => exact .nil
  | cons first _ ih => exact .cons first ih

/-- What nests has a copy made of new containers. -/
theorem exists_copy {v : Value} (proper : h.Proper) (nests : h.Nests n v) (h₀ : Heap) :
    ∃ v' h' ids, h₀.Fresh h' ids ∧ h.Copy h' v v' ids := by
  induction nests generalizing h₀ with
  | @data n v data => exact ⟨v, h₀, [], .refl h₀, .data data⟩
  | @container n id c found inside ih =>
    obtain ⟨values, h₁, ids, hfresh, hall⟩ := exists_piecewise h.Copy
      (fun within copied => copied.mono within) ih h₀
    have hinside := copyAll_of_piecewise hall
    have hdistinct : c.Distinct := fun entries heq => proper id entries (found.trans (heq ▸ rfl))
    exact ⟨.container (h₁.alloc (c.refill values)).1, (h₁.alloc (c.refill values)).2, _,
      hfresh.alloc (hdistinct.refill hinside.length_eq),
      .container found (get?_alloc_self _ _) (hinside.mono (within_alloc _ _))⟩

end Heap

/-! ## Variables -/

namespace Entry

open Heap (Nests CopyAll Fresh Piecewise)

variable {h h' h'' : Heap} {e e' : Entry} {ids : List ContainerId} {n : Nat}

def values (e : Entry) : List Value := e.value :: (e.metadata.getD []).map Prod.snd

theorem Sorted.of_names {es es' : List Entry} (names : es.map Entry.name = es'.map Entry.name)
    (sorted : Sorted es) : Sorted es' := by
  have hnames : (es.map Entry.name).Pairwise (· < ·) := List.pairwise_map.mpr sorted
  rw [names] at hnames
  exact List.pairwise_map.mp hnames

/-- Whether a variable has the name of another, the same keys, and copies of its values. -/
structure Copy (h h' : Heap) (e e' : Entry) (ids : List ContainerId) : Prop where
  name : e'.name = e.name
  keys : e'.metadata.map (List.map Prod.fst) = e.metadata.map (List.map Prod.fst)
  values : CopyAll h h' e.values e'.values ids

theorem Copy.mono (within : h'.Within h'') (copy : e.Copy h h' e' ids) : e.Copy h h'' e' ids :=
  ⟨copy.name, copy.keys, copy.values.mono within⟩

theorem Copy.distinct (copy : e.Copy h h' e' ids)
    (distinct : ∀ m ∈ e.metadata, KeysDistinct m) : ∀ m ∈ e'.metadata, KeysDistinct m := by
  intro m' hm'
  have hkeys := copy.keys
  rw [Option.mem_def.mp hm'] at hkeys
  cases hm : e.metadata with
  | none =>
    rw [hm] at hkeys
    cases hkeys
  | some m =>
    rw [hm] at hkeys
    exact keysDistinct_of_keys (Option.some.inj hkeys) (distinct m hm)

theorem Copy.spells (copy : e.Copy h h' e' ids) {w : Written} (spelled : e.Spells h.listed w) :
    e'.Spells h'.listed w := by
  obtain ⟨name, value, metadata⟩ := e
  obtain ⟨name', value', metadata'⟩ := e'
  obtain ⟨hname, hvalue, hmetadata⟩ := spelled
  obtain ⟨hname', hkeys, hvalues⟩ := copy
  cases hvalues with
  | cons hfirst hrest =>
    refine ⟨hname'.trans hname, hfirst.spells hvalue, ?_⟩
    generalize w.metadata = members at hmetadata ⊢
    cases hmetadata with
    | none =>
      cases metadata' with
      | none => exact .none
      | some m' => cases hkeys
    | @some m ms hspelled =>
      cases metadata' with
      | none => cases hkeys
      | some m' =>
        obtain ⟨hfst, hsnd⟩ := Heap.spellsMembers_iff_items.mp hspelled
        have hkeys' : m'.map Prod.fst = m.map Prod.fst := Option.some.inj hkeys
        exact .some (Heap.spellsMembers_iff_items.mpr ⟨hkeys'.trans hfst, hrest.spells hsnd⟩)

/-- A variable whose values nest has a copy made of new containers. -/
theorem exists_copy (proper : h.Proper) (nests : ∀ v ∈ e.values, ∃ n, h.Nests n v)
    (h₀ : Heap) : ∃ e' h' ids, h₀.Fresh h' ids ∧ e.Copy h h' e' ids := by
  have heach : ∀ v ∈ e.values, ∀ h₁ : Heap,
      ∃ v' h' ids, h₁.Fresh h' ids ∧ h.Copy h' v v' ids := fun v hv => by
    obtain ⟨n, hn⟩ := nests v hv
    exact Heap.exists_copy proper hn
  obtain ⟨values, h', ids, hfresh, hall⟩ :=
    Heap.exists_piecewise h.Copy (fun within copied => copied.mono within) heach h₀
  have hcopies := Heap.copyAll_of_piecewise hall
  obtain ⟨name, value, metadata⟩ := e
  cases hcopies with
  | @cons _ v' _ vs' ids ids' hfirst hrest =>
    refine ⟨⟨name, v', metadata.map fun m => (m.map Prod.fst).zip vs'⟩, h', ids ++ ids', hfresh,
      rfl, ?_, ?_⟩
    · cases metadata with
      | none => rfl
      | some m =>
        have hlength : vs'.length = (m.map Prod.snd).length := hrest.length_eq
        have hfst : ((m.map Prod.fst).zip vs').map Prod.fst = m.map Prod.fst :=
          List.map_fst_zip (by simpa using Nat.le_of_eq hlength.symm)
        exact congrArg some hfst
    · cases metadata with
      | none =>
        cases hrest
        exact .cons hfirst .nil
      | some m =>
        have hlength : vs'.length = (m.map Prod.snd).length := hrest.length_eq
        have hsnd : ((m.map Prod.fst).zip vs').map Prod.snd = vs' :=
          List.map_snd_zip (by simpa using Nat.le_of_eq hlength)
        have hvalues : Entry.values ⟨name, v', some ((m.map Prod.fst).zip vs')⟩ = v' :: vs' :=
          congrArg (v' :: ·) hsnd
        show CopyAll h h' _ (Entry.values ⟨name, v', some ((m.map Prod.fst).zip vs')⟩) _
        rw [hvalues]
        exact .cons hfirst hrest

end Entry
end ScopeChain
