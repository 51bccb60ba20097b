/-
What data gives to the scopes that are read from it.

A variable in data gives its scope a name and a value.  The value is the one that the data holds,
whatever that is, and null if it is missing.  The way outward from data that is accepted ends
before there is no room left, at a scope without a parent or at a snapshot.  A way that comes to
a value twice never ends.
-/
import Mathlib.Data.Fintype.Pigeonhole
import Mathlib.Tactic.Choose
import ScopeChain.Proofs.Snapshot.Outward

namespace ScopeChain

/-! ## What is given -/

def Frame.given (frame : Frame) : List (String × Value) :=
  frame.entries.map fun e => (e.name, e.value)

def GivesVariable (heap : Heap) (v : Value) (p : String × Value) : Prop :=
  ∃ fields, heap.dict? v = some fields ∧ FieldReads fields "name" Coerce.text p.1 ∧
    p.2 = (fieldOf fields "value").getD .null

def GivesVariables (heap : Heap) (fields : Metadata) (given : List (String × Value)) : Prop :=
  match fieldOf fields "variables" with
  | none => given = []
  | some v => ∃ items, heap.items? v = some items ∧ List.Forall₂ (GivesVariable heap) items given

/-- Whether a value gives these variables to the scopes of a chain, the innermost first. -/
inductive GivesChain (heap : Heap) (snapshots : Array Snapshot) :
    Value → List (List (String × Value)) → Prop where
  | last {v : Value} {fields : Metadata} {given : List (String × Value)}
    (dict : heap.dict? v = some fields) (bound : GivesVariables heap fields given)
    (alone : ∀ p, fieldOf fields "parent" = some p → p = .null) :
    GivesChain heap snapshots v [given]
  | inside {v p : Value} {fields : Metadata} {given : List (String × Value)}
    {outer : List (List (String × Value))} (dict : heap.dict? v = some fields)
    (bound : GivesVariables heap fields given) (parent : fieldOf fields "parent" = some p)
    (some : p ≠ .null) (enclosing : GivesChain heap snapshots p outer) :
    GivesChain heap snapshots v (given :: outer)
  | snapshot {id : SnapshotId} {s : Snapshot} (found : snapshots[id]? = some s) :
    GivesChain heap snapshots (.snapshot id) (s.frames.map Frame.given)

/-! ## The way outward -/

/-- Whether a value is a scope without a parent: a dict in which that is missing or null, or a
snapshot of one scope. -/
inductive Outermost (heap : Heap) (snapshots : Array Snapshot) : Value → Prop where
  | dict {v : Value} {fields : Metadata} (dict : heap.dict? v = some fields)
    (alone : ∀ p, fieldOf fields "parent" = some p → p = .null) : Outermost heap snapshots v
  | snapshot {id : SnapshotId} {s : Snapshot} (found : snapshots[id]? = some s)
    (alone : s.outer = []) : Outermost heap snapshots (.snapshot id)

/-- Whether the way outward from a value ends within `n` scopes, at one without a parent. -/
def Ends (heap : Heap) (snapshots : Array Snapshot) (n : Nat) (v : Value) : Prop :=
  ∃ k < n, ∃ w, heap.outward k v = some w ∧ Outermost heap snapshots w

/-- Whether the way outward from a value comes to some value twice. -/
def Circles (heap : Heap) (v : Value) : Prop :=
  ∃ i j w, i < j ∧ heap.outward i v = some w ∧ heap.outward j v = some w

/-- Whether no parent is a snapshot, neither on the way outward nor inside a snapshot. -/
structure Unsnapped (heap : Heap) (snapshots : Array Snapshot) (v : Value) : Prop where
  outward : ∀ k id, heap.outward (k + 1) v ≠ some (.snapshot id)
  alone : ∀ id s, v = .snapshot id → snapshots[id]? = some s → s.outer = []

variable {heap : Heap} {snapshots : Array Snapshot} {v w : Value} {n k : Nat}

theorem Nests.of_outward (nests : Nests heap w n) (given : w ≠ .null)
    (way : heap.outward k v = some w) : Nests heap v (n + k) := by
  induction k generalizing v with
  | zero =>
    cases way
    exact nests
  | succ k ih =>
    obtain ⟨fields, dict, hrest⟩ := Option.bind_eq_some_iff.mp way
    obtain ⟨p, parent, hway⟩ := Option.bind_eq_some_iff.mp hrest
    refine .inside dict parent (fun hnull => ?_) (ih hway)
    subst hnull
    cases k with
    | zero => exact given (Option.some.inj hway).symm
    | succ k => cases hway

theorem Nests.outward (nests : Nests heap v n) (way : heap.outward k v = some w) :
    ∃ m, Nests heap w m ∧ n = m + k := by
  induction k generalizing v n with
  | zero =>
    cases way
    exact ⟨n, nests, rfl⟩
  | succ k ih =>
    obtain ⟨fields, dict, hrest⟩ := Option.bind_eq_some_iff.mp way
    obtain ⟨p, parent, hway⟩ := Option.bind_eq_some_iff.mp hrest
    cases nests with
    | stray absent => cases absent.symm.trans dict
    | last dict' alone =>
      cases dict.symm.trans dict'
      cases alone p parent
      obtain ⟨m, hm, hcount⟩ := ih (.stray rfl) hway
      exact ⟨m, hm, congrArg (· + 1) hcount⟩
    | inside dict' parent' _ enclosing =>
      cases dict.symm.trans dict'
      cases parent.symm.trans parent'
      obtain ⟨m, hm, hcount⟩ := ih enclosing hway
      exact ⟨m, hm, congrArg (· + 1) hcount⟩

/-- A value that nests scopes is met once at most on the way outward. -/
theorem Nests.not_circles (nests : Nests heap v n) : ¬ Circles heap v := by
  rintro ⟨i, j, w, hlt, hi, hj⟩
  obtain ⟨m, hm, hcount⟩ := nests.outward hi
  obtain ⟨m', hm', hcount'⟩ := nests.outward hj
  have hsame := hm.unique hm'
  omega

theorem Heap.outward_succ (heap : Heap) (k : Nat) (v : Value) :
    heap.outward (k + 1) v = (heap.outward k v).bind (heap.outward 1) := by
  induction k generalizing v with
  | zero => rfl
  | succ k ih =>
    rw [outward, outward, Option.bind_assoc]
    refine congrArg _ (funext fun fields => ?_)
    rw [Option.bind_assoc]
    exact congrArg _ (funext ih)

theorem dict_of_endless (endless : ∀ n, ¬ Nests heap v n) (way : heap.outward k v = some w)
    (given : w ≠ .null) : ∃ id fields, w = .container id ∧ heap.dict? w = some fields := by
  cases dict : heap.dict? w with
  | none => exact absurd ((Nests.stray dict).of_outward given way) (endless _)
  | some fields =>
    obtain ⟨id, rfl, -⟩ := Heap.dict?_eq_some.mp dict
    exact ⟨id, fields, rfl, rfl⟩

theorem exists_outward (endless : ∀ n, ¬ Nests heap v n) (k : Nat) :
    ∃ w, heap.outward k v = some w ∧ w ≠ .null := by
  induction k with
  | zero =>
    refine ⟨v, rfl, ?_⟩
    rintro rfl
    exact endless 0 (.stray rfl)
  | succ k ih =>
    obtain ⟨w, hway, given⟩ := ih
    obtain ⟨id, fields, rfl, dict⟩ := dict_of_endless endless hway given
    by_contra hends
    refine endless _ ((Nests.last dict fun p parent => ?_).of_outward given hway)
    by_contra hp
    refine hends ⟨p, ?_, hp⟩
    rw [Heap.outward_succ, hway, Option.bind_some, Heap.outward, dict, Option.bind_some, parent]
    rfl

/-- The way outward comes to a value twice, or the value nests finitely many scopes. -/
theorem exists_nests (once : ¬ Circles heap v) : ∃ n, Nests heap v n := by
  by_contra endless
  rw [not_exists] at endless
  choose w hway given using exists_outward endless
  choose id fields hid dict using fun k => dict_of_endless endless (hway k) (given k)
  have hlt : ∀ k, id k < heap.cells.size := by
    intro k
    have hk := dict k
    rw [hid k] at hk
    by_contra hle
    have hnone : heap.get? (id k) = none := Array.getElem?_eq_none (Nat.not_lt.mp hle)
    rw [Heap.dict?, hnone] at hk
    cases hk
  obtain ⟨i, j, hne, hsame⟩ :=
    Finite.exists_ne_map_eq_of_infinite fun k => (⟨id k, hlt k⟩ : Fin heap.cells.size)
  have hsame : w i = w j := by rw [hid i, hid j, show id i = id j from congrArg Fin.val hsame]
  rcases Nat.lt_or_gt_of_ne hne with h | h
  · exact once ⟨i, j, _, h, hway i, hsame ▸ hway j⟩
  · exact once ⟨j, i, _, h, hway j, hsame ▸ hway i⟩

theorem Ends.nests (ends : Ends heap snapshots n v) : ∃ m, Nests heap v m := by
  obtain ⟨k, -, w, hway, houtermost⟩ := ends
  cases houtermost with
  | dict dict alone =>
    refine ⟨_, (Nests.last dict alone).of_outward (fun hnull => ?_) hway⟩
    rw [hnull] at dict
    cases dict
  | @snapshot id s found alone =>
    have hstray : Nests heap (.snapshot id) 0 := .stray rfl
    exact ⟨_, hstray.of_outward (fun hnull => nomatch hnull) hway⟩

theorem Ends.not_circles (ends : Ends heap snapshots n v) : ¬ Circles heap v :=
  have ⟨_, nests⟩ := ends.nests
  nests.not_circles

namespace Snapshot

variable {fields : Metadata} {room : Nat} {seen : List ContainerId} {s : Snapshot}

/-! ## What is read -/

theorem givesVariable_of_checkEntry {e : Entry} (accepted : checkEntry heap v = .ok e) :
    GivesVariable heap v (e.name, e.value) := by
  rw [checkEntry] at accepted
  split at accepted
  next fields dict =>
    rw [checkEntryFields_eq] at accepted
    obtain ⟨⟨name, metadata⟩, hboth, rfl⟩ := Checked.map_eq_ok.mp accepted
    exact ⟨fields, dict, checkRequired_eq_ok.mp (Checked.both_eq_ok.mp hboth).1, rfl⟩
  next => cases accepted

theorem givesVariable_of_checkEntriesFrom {i : Nat} {items : List Value} {bound : List Entry}
    (accepted : checkEntriesFrom heap i items = .ok bound) :
    List.Forall₂ (GivesVariable heap) items (bound.map fun e => (e.name, e.value)) := by
  induction items generalizing i bound with
  | nil =>
    cases accepted
    exact .nil
  | cons v rest ih =>
    rw [checkEntriesFrom_cons] at accepted
    obtain ⟨⟨e, es⟩, hboth, rfl⟩ := Checked.map_eq_ok.mp accepted
    obtain ⟨hentry, hrest⟩ := Checked.both_eq_ok.mp hboth
    exact .cons (givesVariable_of_checkEntry (Checked.inside_eq_ok.mp hentry)) (ih hrest)

theorem givesVariables_of_checkEntries {bound : List Entry}
    (accepted : checkEntries heap fields = .ok bound) :
    GivesVariables heap fields (bound.map fun e => (e.name, e.value)) := by
  rw [checkEntries, Checked.inside_eq_ok] at accepted
  rw [GivesVariables]
  cases hv : fieldOf fields "variables" with
  | none =>
    rw [hv] at accepted
    cases accepted
    exact rfl
  | some v =>
    rw [hv] at accepted
    simp only at accepted
    split at accepted
    next items hitems =>
      refine ⟨items, ?_, givesVariable_of_checkEntriesFrom accepted⟩
      cases v with
      | snapshot id =>
        -- The names of its fields are no variables.
        cases hitems
        cases accepted
      | _ => exact hitems
    next => cases accepted

theorem gives_of_checkFields {read : Value → Checked Snapshot}
    (dict : heap.dict? v = some fields)
    (inside : ∀ {p t}, read p = .ok t → GivesChain heap snapshots p (t.frames.map Frame.given))
    (accepted : checkFields heap read fields = .ok s) :
    GivesChain heap snapshots v (s.frames.map Frame.given) := by
  obtain ⟨depth, isGlobal, bound, parent, -, -, hbound, hparent, hshape⟩ :=
    checkFields_eq_ok.mp accepted
  obtain ⟨-, -, rfl⟩ := checkShape_eq_ok.mp hshape
  have hvariables := givesVariables_of_checkEntries hbound
  cases parent with
  | none => exact .last dict hvariables (checkParent_eq_none.mp hparent)
  | some t =>
    obtain ⟨p, inner, hp, given, hread, rfl⟩ := checkParent_eq_some.mp hparent
    have houter := inside hread
    rw [← frames_asParent p inner] at houter
    exact .inside dict hvariables hp given houter

/-- Data that is accepted gives the chain its variables. -/
theorem gives_of_checkScope (accepted : checkScope heap snapshots room seen v = .ok s) :
    GivesChain heap snapshots v (s.frames.map Frame.given) := by
  induction room generalizing seen v s with
  | zero =>
    unfold checkScope at accepted
    split at accepted <;> cases accepted
  | succ room ih =>
    unfold checkScope at accepted
    split at accepted
    next id =>
      split at accepted
      next t found =>
        cases accepted
        exact .snapshot found
      next => cases accepted
    next id =>
      split at accepted
      next => cases accepted
      next =>
        split at accepted
        next fields dict => exact gives_of_checkFields dict ih accepted
        next => cases accepted
    next => cases accepted

theorem leads_of_checkScope (accepted : checkScope heap snapshots room seen v = .ok s) :
    ∃ k < room, ∃ w, heap.outward k v = some w ∧
      (Outermost heap snapshots w ∨ ∃ id, w = .snapshot id ∧ (snapshots[id]?).isSome) := by
  induction room generalizing seen v s with
  | zero =>
    unfold checkScope at accepted
    split at accepted <;> cases accepted
  | succ room ih =>
    unfold checkScope at accepted
    split at accepted
    next id =>
      split at accepted
      next t found =>
        exact ⟨0, Nat.succ_pos room, _, rfl, Or.inr ⟨id, rfl, by rw [found]; rfl⟩⟩
      next => cases accepted
    next id =>
      split at accepted
      next => cases accepted
      next =>
        split at accepted
        next fields dict =>
          obtain ⟨_, _, _, parent, -, -, -, hparent, -⟩ := checkFields_eq_ok.mp accepted
          cases parent with
          | none =>
            have houtermost : Outermost heap snapshots _ :=
              .dict dict (checkParent_eq_none.mp hparent)
            exact ⟨0, Nat.succ_pos room, _, rfl, Or.inl houtermost⟩
          | some t =>
            obtain ⟨p, inner, hp, -, hread, -⟩ := checkParent_eq_some.mp hparent
            obtain ⟨k, hk, w, hway, hw⟩ := ih hread
            refine ⟨k + 1, Nat.succ_lt_succ hk, w, ?_, hw⟩
            rw [Heap.outward, dict, Option.bind_some, hp, Option.bind_some, hway]
        next => cases accepted
    next => cases accepted

/-- If no parent is a snapshot, the way outward from data that is accepted ends. -/
theorem ends_of_checkScope (unsnapped : Unsnapped heap snapshots v)
    (accepted : checkScope heap snapshots room seen v = .ok s) : Ends heap snapshots room v := by
  obtain ⟨k, hk, w, hway, houtermost | ⟨id, rfl, hfound⟩⟩ := leads_of_checkScope accepted
  · exact ⟨k, hk, w, hway, houtermost⟩
  · cases k with
    | zero =>
      obtain ⟨t, found⟩ := Option.isSome_iff_exists.mp hfound
      exact ⟨0, hk, _, hway, .snapshot found (unsnapped.alone id t (Option.some.inj hway) found)⟩
    | succ k => exact absurd hway (unsnapped.outward k id)

end Snapshot
end ScopeChain
