/-
Containers that change.

A host puts an item behind a list or writes a key of a dict.  That changes one container, and a
value that does not hold it is shown as it was.  In a closed heap every
container that is inside another is there, so a new one is inside none of those before.
-/
import ScopeChain.Dialogue.Literal
import ScopeChain.Proofs.Value.Nesting

namespace ScopeChain

def Value.Below (n : Nat) (v : Value) : Prop := ∀ id, v = .container id → id < n

theorem Value.Below.mono {n m : Nat} {v : Value} (below : v.Below n) (le : n ≤ m) : v.Below m :=
  fun id h => Nat.lt_of_lt_of_le (below id h) le

def Value.From (n : Nat) (v : Value) : Prop := ∀ id, v = .container id → n ≤ id

theorem Value.below_container {n : Nat} {id : ContainerId} : (container id).Below n ↔ id < n :=
  ⟨fun below => below id rfl, fun lt id' h => by cases h; exact lt⟩

namespace Heap

variable {h h' : Heap} {id : ContainerId} {v w : Value}

/-! ## One container -/

structure AgreeOff (id : ContainerId) (h h' : Heap) : Prop where
  size : h'.cells.size = h.cells.size
  others : ∀ other, other ≠ id → h'.get? other = h.get? other

theorem agreeOff_replace (h : Heap) (id : ContainerId) (c : Container) :
    AgreeOff id h (h.replace id c) :=
  ⟨Array.size_setIfInBounds, fun _ ne => get?_replace_of_ne h ne c⟩

theorem AgreeOff.alloc (agree : AgreeOff id h h') (c : Container) :
    (h'.alloc c).1 = (h.alloc c).1 ∧ AgreeOff id (h.alloc c).2 (h'.alloc c).2 := by
  refine ⟨agree.size, by simp [Heap.alloc, agree.size], fun other ne => ?_⟩
  have hothers : h'.cells[other]? = h.cells[other]? := agree.others other ne
  simp only [get?, Heap.alloc, Array.getElem?_push, hothers, agree.size]

theorem AgreeOff.ofValue (agree : AgreeOff id h h') {room : Nat} {path : List ContainerId}
    (apart : ¬ h.Holds v (.container id)) :
    Literal.ofValue h' room path v = Literal.ofValue h room path v := by
  induction room generalizing path v with
  | zero => rfl
  | succ room ih =>
    cases v with
    | container other =>
      have hne : other ≠ id := fun e => apart (e ▸ .self _)
      simp only [Literal.ofValue, agree.others other hne]
      have hinside : ∀ {c : Container}, h.get? other = some c → ∀ w ∈ c.values, ∀ path,
          Literal.ofValue h' room path w = Literal.ofValue h room path w :=
        fun found w mem path => ih fun held => apart (holds_of_values found mem held)
      split
      · rfl
      · cases hget : h.get? other with
        | none => rfl
        | some c =>
          cases c with
          | list items =>
            have hitems : items.mapM (Literal.ofValue h' room (other :: path)) =
                items.mapM (Literal.ofValue h room (other :: path)) :=
              Listwise.mapM_congr fun w mem => hinside hget w mem _
            simp only [hitems]
          | tuple items =>
            have hitems : items.mapM (Literal.ofValue h' room (other :: path)) =
                items.mapM (Literal.ofValue h room (other :: path)) :=
              Listwise.mapM_congr fun w mem => hinside hget w mem _
            simp only [hitems]
          | dict entries =>
            simp only
            rw [Listwise.mapM_congr fun p mem => ?_]
            rw [hinside hget p.2 (List.mem_map_of_mem mem)]
    | _ => rfl

/-! ## What is put into a container -/

/-- A changed heap in which a container holds one value more at most. -/
structure Adds (id : ContainerId) (w : Value) (h h' : Heap) : Prop extends AgreeOff id h h' where
  added : ∀ c', h'.get? id = some c' →
    ∃ c, h.get? id = some c ∧ ∀ u ∈ c'.values, u ∈ c.values ∨ u = w

theorem mem_putEntry_values {entries : Metadata} {key : Key} {u : Value}
    (mem : u ∈ (putEntry key w entries).map Prod.snd) :
    u ∈ entries.map Prod.snd ∨ u = w := by
  induction entries with
  | nil => exact Or.inr (List.mem_singleton.mp mem)
  | cons p rest ih =>
    obtain ⟨k, x⟩ := p
    rw [putEntry] at mem
    split at mem
    next =>
      rcases List.mem_cons.mp mem with rfl | mem
      · exact Or.inr rfl
      · exact Or.inl (List.mem_cons_of_mem _ mem)
    next =>
      rcases List.mem_cons.mp mem with rfl | mem
      · exact Or.inl List.mem_cons_self
      · exact (ih mem).imp (List.mem_cons_of_mem _) id

theorem adds_replace {c c' : Container} (found : h.get? id = some c)
    (added : ∀ u ∈ c'.values, u ∈ c.values ∨ u = w) : Adds id w h (h.replace id c') where
  toAgreeOff := agreeOff_replace h id c'
  added d hd := by
    cases (get?_replace_self found c').symm.trans hd
    exact ⟨c, found, added⟩

theorem adds_append (done : h.append id w = some h') : Adds id w h h' := by
  obtain ⟨items, found, rfl⟩ := append_eq_some.mp done
  exact adds_replace found fun u mem =>
    (List.mem_append.mp mem).imp_right List.mem_singleton.mp

theorem adds_put {key : Key} (done : h.put id key w = some h') : Adds id w h h' := by
  obtain ⟨entries, found, rfl⟩ := put_eq_some.mp done
  exact adds_replace found fun u mem => mem_putEntry_values mem

theorem Adds.holds (adds : Adds id w h h') {u : Value} (held : h'.Holds v u) :
    h.Holds v u ∨ h.Holds w u := by
  have hinside : ∀ {v x u : Value} {other : ContainerId} {c' : Container},
      v = .container other → h'.get? other = some c' → x ∈ c'.values →
      (h.Holds x u ∨ h.Holds w u) → h.Holds v u ∨ h.Holds w u := by
    rintro v x u other c' rfl found mem held
    by_cases ne : other = id
    · subst ne
      obtain ⟨c, hfound, hvalues⟩ := adds.added c' found
      rcases hvalues x mem with hx | rfl
      · exact held.imp_left (holds_of_values hfound hx)
      · exact Or.inr (held.elim (fun held => held) fun held => held)
    · rw [adds.others other ne] at found
      exact held.imp_left (holds_of_values found mem)
  induction held with
  | self v => exact Or.inl (.self v)
  | item found mem _ ih =>
    obtain ⟨other, hv, hget | hget⟩ := items?_eq_some.mp found
    · exact hinside hv hget mem ih
    · exact hinside hv hget mem ih
  | entry found mem _ ih =>
    obtain ⟨other, hv, hget⟩ := dict?_eq_some.mp found
    exact hinside hv hget (List.mem_map_of_mem mem) ih

/-! ## Closed heaps -/

def Closed (h : Heap) : Prop :=
  ∀ id c, h.get? id = some c → ∀ v ∈ c.values, v.Below h.cells.size

theorem Closed.holds (closed : h.Closed) (below : v.Below h.cells.size) (held : h.Holds v w) :
    w.Below h.cells.size :=
  held.closed below fun id c _ found => closed id c found

theorem Closed.holds_of_within (closed : h.Closed) (within : h.Within h')
    (below : v.Below h.cells.size) (held : h'.Holds v w) : h.Holds v w := by
  have hsame : ∀ {other : ContainerId}, (Value.container other).Below h.cells.size →
      h'.get? other = h.get? other := by
    intro other below
    have lt := below other rfl
    have hfound : h.get? other = some h.cells[other] := Array.getElem?_eq_getElem lt
    rw [hfound]
    exact within _ _ hfound
  induction held with
  | self v => exact .self v
  | item found mem _ ih =>
    obtain ⟨other, rfl, hget⟩ := items?_eq_some.mp found
    rw [hsame below] at hget
    refine .item (items?_eq_some.mpr ⟨other, rfl, hget⟩) mem (ih ?_)
    rcases hget with hget | hget
    · exact closed other _ hget _ mem
    · exact closed other _ hget _ mem
  | entry found mem _ ih =>
    obtain ⟨other, rfl, hget⟩ := dict?_eq_some.mp found
    rw [hsame below] at hget
    exact .entry (dict?_eq_some.mpr ⟨other, rfl, hget⟩) mem
      (ih (closed other _ hget _ (List.mem_map_of_mem mem)))

theorem Closed.adds (closed : h.Closed) (adds : Adds id w h h') (below : w.Below h.cells.size) :
    h'.Closed := by
  intro other c' found v mem
  rw [adds.size]
  by_cases ne : other = id
  · subst ne
    obtain ⟨c, hfound, hvalues⟩ := adds.added c' found
    rcases hvalues v mem with hv | rfl
    · exact closed other c hfound v hv
    · exact below
  · rw [adds.others other ne] at found
    exact closed other c' found v mem

theorem size_alloc (h : Heap) (c : Container) : (h.alloc c).2.cells.size = h.cells.size + 1 := by
  simp [Heap.alloc]

theorem get?_alloc_cases {c d : Container} (found : (h.alloc c).2.get? id = some d) :
    h.get? id = some d ∨ id = h.cells.size ∧ d = c := by
  simp only [get?, Heap.alloc, Array.getElem?_push] at found
  split at found
  next heq => exact Or.inr ⟨heq, (Option.some.inj found).symm⟩
  next => exact Or.inl found

theorem Closed.alloc (closed : h.Closed) {c : Container}
    (below : ∀ v ∈ c.values, v.Below h.cells.size) : (h.alloc c).2.Closed := by
  intro id d found v mem
  have hle : h.cells.size ≤ (h.alloc c).2.cells.size := by
    rw [size_alloc]
    exact Nat.le_succ _
  rcases get?_alloc_cases found with found | ⟨-, rfl⟩
  · exact (closed id d found v mem).mono hle
  · exact (below v mem).mono hle

theorem below_alloc (h : Heap) (c : Container) :
    (Value.container (h.alloc c).1).Below (h.alloc c).2.cells.size := by
  rw [Value.below_container, size_alloc]
  exact Nat.lt_succ_self _

/-! ## New containers -/

theorem Within.size (within : h.Within h') : h.cells.size ≤ h'.cells.size := by
  by_contra lt
  have lt : h'.cells.size < h.cells.size := Nat.lt_of_not_le lt
  have hfound : h.get? h'.cells.size = some h.cells[h'.cells.size] := Array.getElem?_eq_getElem lt
  have hnone : h'.get? h'.cells.size = none := Array.getElem?_eq_none (Nat.le_refl _)
  have hsome := within _ _ hfound
  rw [hnone] at hsome
  cases hsome

/-- A closed heap in which the containers from `n` on hold none of the first `n`, but in values of
which `P` is true. -/
structure Parted (n : Nat) (P : Value → Prop) (h : Heap) : Prop where
  size : n ≤ h.cells.size
  closed : h.Closed
  apart : ∀ id c, h.get? id = some c → n ≤ id → ∀ v ∈ c.values, v.From n ∨ P v

/-- Whether a value is there, and is none of the first `n` containers unless `P` is true of it. -/
def IsNew (n : Nat) (P : Value → Prop) (h : Heap) (v : Value) : Prop :=
  v.Below h.cells.size ∧ (v.From n ∨ P v)

section Growth

variable {n : Nat} {P : Value → Prop}

theorem Closed.parted (closed : h.Closed) : Parted h.cells.size P h := by
  refine ⟨Nat.le_refl _, closed, fun id c found le => ?_⟩
  rw [get?, Array.getElem?_eq_none le] at found
  cases found

/-- What is held by a new value is new, or held by one of which `P` is true. -/
theorem Parted.holds (parted : Parted n P h) (new : v.From n ∨ P v) (held : h.Holds v w) :
    w.From n ∨ ∃ u, P u ∧ h.Holds u w := by
  rcases new with new | given
  · have hinside : ∀ {v x w : Value} {other : ContainerId} {c : Container}, v.From n →
        v = .container other → h.get? other = some c → x ∈ c.values →
        (x.From n → w.From n ∨ ∃ u, P u ∧ h.Holds u w) → h.Holds x w →
        w.From n ∨ ∃ u, P u ∧ h.Holds u w := by
      intro v x w other c new hv found mem ih held
      rcases parted.apart other c found (new other hv) x mem with hx | given
      · exact ih hx
      · exact Or.inr ⟨x, given, held⟩
    induction held with
    | self v => exact Or.inl new
    | item found mem held ih =>
      obtain ⟨other, hv, hget | hget⟩ := items?_eq_some.mp found
      · exact hinside new hv hget mem ih held
      · exact hinside new hv hget mem ih held
    | entry found mem held ih =>
      obtain ⟨other, hv, hget⟩ := dict?_eq_some.mp found
      exact hinside new hv hget (List.mem_map_of_mem mem) ih held
  · exact Or.inr ⟨v, given, held⟩

theorem Parted.alloc (parted : Parted n P h) {c : Container}
    (new : ∀ v ∈ c.values, IsNew n P h v) :
    Parted n P (h.alloc c).2 ∧ (Value.container (h.alloc c).1).Below (h.alloc c).2.cells.size ∧
      (Value.container (h.alloc c).1).From n := by
  have hsize := size_alloc h c
  refine ⟨⟨by have := parted.size; omega, parted.closed.alloc fun v mem => (new v mem).1,
    fun id d found le v mem => ?_⟩, below_alloc h c, ?_⟩
  · rcases get?_alloc_cases found with found | ⟨-, rfl⟩
    · exact parted.apart id d found le v mem
    · exact (new v mem).2
  · rintro id ⟨⟩
    exact parted.size

theorem isNew_data {v : Value} (data : ∀ id, v ≠ .container id) : IsNew n P h v :=
  ⟨fun id e => absurd e (data id), Or.inl fun id e => absurd e (data id)⟩

theorem IsNew.mono (new : IsNew n P h v) (within : h.Within h') : IsNew n P h' v :=
  ⟨new.1.mono within.size, new.2⟩

/- The containers of a tree hold only each other. -/
mutual
theorem Parted.ofJson : ∀ (j : Json) {h : Heap}, Parted n P h →
    Parted n P (h.ofJson j).2 ∧ IsNew n P (h.ofJson j).2 (h.ofJson j).1
  | .null, _, parted => ⟨parted, isNew_data fun _ => nofun⟩
  | .bool _, _, parted => ⟨parted, isNew_data fun _ => nofun⟩
  | .int _, _, parted => ⟨parted, isNew_data fun _ => nofun⟩
  | .float _, _, parted => ⟨parted, isNew_data fun _ => nofun⟩
  | .text _, _, parted => ⟨parted, isNew_data fun _ => nofun⟩
  | .array items, _, parted =>
    have ⟨hparted, hnew⟩ := Parted.ofItems items parted
    have ⟨hmade, hbelow, hfrom⟩ := hparted.alloc (c := .list _) hnew
    ⟨hmade, hbelow, Or.inl hfrom⟩
  | .object members, _, parted =>
    have ⟨hparted, hnew⟩ := Parted.ofMembers members parted
    have ⟨hmade, hbelow, hfrom⟩ := hparted.alloc (c := .dict _) hnew
    ⟨hmade, hbelow, Or.inl hfrom⟩

theorem Parted.ofItems : ∀ (items : List Json) {h : Heap}, Parted n P h →
    Parted n P (h.ofItems items).2 ∧ ∀ v ∈ (h.ofItems items).1, IsNew n P (h.ofItems items).2 v
  | [], _, parted => ⟨parted, fun _ mem => absurd mem List.not_mem_nil⟩
  | j :: items, h, parted => by
    obtain ⟨hparted, hnew⟩ := Parted.ofJson j parted
    obtain ⟨hrest, hnews⟩ := Parted.ofItems items hparted
    refine ⟨hrest, fun v mem => ?_⟩
    rcases List.mem_cons.mp mem with rfl | mem
    · exact hnew.mono (within_ofItems items _)
    · exact hnews v mem

theorem Parted.ofMembers : ∀ (members : List (String × Json)) {h : Heap}, Parted n P h →
    Parted n P (h.ofMembers members).2 ∧
      ∀ v ∈ (h.ofMembers members).1.map Prod.snd, IsNew n P (h.ofMembers members).2 v
  | [], _, parted => ⟨parted, fun _ mem => absurd mem List.not_mem_nil⟩
  | (_, j) :: members, h, parted => by
    obtain ⟨hparted, hnew⟩ := Parted.ofJson j parted
    obtain ⟨hrest, hnews⟩ := Parted.ofMembers members hparted
    refine ⟨hrest, fun v mem => ?_⟩
    rcases List.mem_cons.mp mem with rfl | mem
    · exact hnew.mono (within_ofMembers members _)
    · exact hnews v mem
end

end Growth

end Heap
end ScopeChain
