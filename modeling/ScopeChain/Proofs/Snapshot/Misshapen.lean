/-
The shape of scopes in data.

A scope fits its parent if it is global exactly if it has none, and one deeper otherwise.  What is
found in data that nests not too many scopes are the findings about the fields of each scope, and
behind them at most one about a shape.  There is one exactly if the fields of some scope and of all
around it can be read, those around it fit, and the scope itself does not.
-/
import ScopeChain.Proofs.Snapshot.Outward

namespace ScopeChain

/-- What is wrong with the level of a scope inside those of `outer`, if it does not fit. -/
def Level.misfit (level : Level) (outer : List Level) : Option Issue :=
  let expected := match outer with
    | [] => 0
    | parent :: _ => parent.depth + 1
  if level.isGlobal ≠ outer.isEmpty then some .globalMismatch
  else if level.depth ≠ expected then some (.depthMismatch level.depth.toNat expected.toNat)
  else none

theorem Level.misfit_of_counted {outer : List Level} (counted : Counted outer) (level : Level) :
    level.misfit outer =
      if level.isGlobal ≠ outer.isEmpty then some .globalMismatch
      else if level.depth ≠ outer.length then
        some (.depthMismatch level.depth.toNat outer.length)
      else none := by
  cases outer with
  | nil => rfl
  | cons parent rest =>
    have hexpected : parent.depth + 1 = ((parent :: rest).length : Int) := by
      rw [counted.1]
      rfl
    simp only [misfit, hexpected, Int.toNat_natCast]

theorem counted_cons {level : Level} {outer : List Level} :
    Counted (level :: outer) ↔ level.misfit outer = none ∧ Counted outer := by
  rw [Counted, ← and_assoc]
  refine and_congr_left fun counted => ?_
  rw [Level.misfit_of_counted counted]
  by_cases hglobal : level.isGlobal = outer.isEmpty <;>
    by_cases hdepth : level.depth = outer.length <;> simp [hglobal, hdepth]

theorem isShape_of_misfit {level : Level} {outer : List Level} {issue : Issue}
    (misfit : level.misfit outer = some issue) : issue.isShape = true := by
  simp only [Level.misfit] at misfit
  split_ifs at misfit <;> cases misfit <;> rfl

namespace Snapshot

open Checked

variable {heap : Heap} {snapshots : Array Snapshot} {fields : Metadata} {v : Value} {n room : Nat}
  {seen : List ContainerId}

/-! ## Shapes -/

structure ParentOn (parent : Option Snapshot) (outer : List Level) : Prop where
  missing : parent.isNone = outer.isEmpty
  count : (parent.map (·.first.depth + 1)).getD 0 = outer.length

theorem checkShape_cases (depth : Nat) (isGlobal : Bool) (bound : List Entry)
    (parent : Option Snapshot) :
    (∃ s, checkShape depth isGlobal bound parent = .ok s) ∨
      ∃ issue, checkShape depth isGlobal bound parent = fail issue := by
  unfold checkShape
  simp only
  split_ifs
  · exact Or.inr ⟨_, rfl⟩
  · exact Or.inr ⟨_, rfl⟩
  · exact Or.inl ⟨_, rfl⟩

theorem faults_checkShape {parent : Option Snapshot} {outer : List Level}
    (on : ParentOn parent outer) (counted : Counted outer) (depth : Nat) (isGlobal : Bool)
    (bound : List Entry) :
    (checkShape depth isGlobal bound parent).faults =
      (Level.misfit ⟨depth, isGlobal⟩ outer).toList.map fun issue => ⟨[], issue⟩ := by
  have hshape : checkShape depth isGlobal bound parent =
      if isGlobal ≠ outer.isEmpty then fail .globalMismatch
      else if depth ≠ outer.length then fail (.depthMismatch depth outer.length)
      else .ok ⟨⟨depth, isGlobal, bound⟩, (parent.map frames).getD [], parent.bind base⟩ := by
    rw [← on.count, ← on.missing]
    cases parent <;> rfl
  rw [hshape, Level.misfit_of_counted counted]
  simp only [Int.toNat_natCast, ne_eq, Int.natCast_inj]
  split_ifs <;> rfl

theorem parentOn_of_ok (plain : ∀ id, ¬ heap.Holds v (.snapshot id))
    (dict : heap.dict? v = some fields) {parent : Option Snapshot}
    (accepted : checkParent (checkScope heap snapshots room []) fields = .ok parent) :
    ∃ outer, ParentOn parent outer ∧ Counted outer ∧
      ∀ level, DescribesScope heap fields level → DescribesChain heap v (level :: outer) := by
  cases parent with
  | none =>
    exact ⟨[], ⟨rfl, rfl⟩, trivial, fun level scope =>
      .last dict scope (checkParent_eq_none.mp accepted)⟩
  | some s =>
    obtain ⟨p, t, hp, given, hread, rfl⟩ := checkParent_eq_some.mp accepted
    obtain ⟨outer, hdescribed, hcounted, -, hlevels⟩ :=
      finds_of_checkScope (plain_field plain dict hp) hread
    have hlevels := hlevels.asParent p
    refine ⟨outer, ⟨?_, hlevels.depth⟩, hcounted, fun level scope =>
      .inside dict scope hp given hdescribed⟩
    cases outer with
    | nil => cases hlevels.depth
    | cons => rfl

theorem parentOn_of_describes (snapshots : Array Snapshot) {level : Level} {outer : List Level}
    (described : DescribesChain heap v (level :: outer)) (dict : heap.dict? v = some fields)
    (counted : Counted outer) (enough : outer.length ≤ room) :
    DescribesScope heap fields level ∧ ∃ parent,
      checkParent (checkScope heap snapshots room []) fields = .ok parent ∧
        ParentOn parent outer := by
  cases described with
  | last dict' scope alone =>
    cases dict.symm.trans dict'
    exact ⟨scope, none, checkParent_eq_none.mpr alone, rfl, rfl⟩
  | @inside _ p _ _ _ dict' scope hp given enclosing =>
    cases dict.symm.trans dict'
    obtain ⟨t, hread, hlevels⟩ := checkScope_of_describes enclosing counted enough
      fun id hid => absurd hid List.not_mem_nil
    have hlevels := hlevels.asParent p
    refine ⟨scope, _, checkParent_eq_some.mpr ⟨p, t, hp, given, hread, rfl⟩, ?_, hlevels.depth⟩
    cases outer with
    | nil => cases hlevels.depth
    | cons => rfl

theorem checkOwn_isOk {depth : Nat} {isGlobal : Bool}
    (plain : ∀ v, fieldOf fields "variables" = some v → ∀ id, v ≠ .snapshot id) :
    (∃ bound, checkOwn heap fields = .ok ((depth, isGlobal), bound)) ↔
      DescribesScope heap fields ⟨depth, isGlobal⟩ := by
  simp only [checkOwn, both_eq_ok]
  constructor
  · rintro ⟨bound, ⟨hdepth, hglobal⟩, hbound⟩
    exact describesScope_of_checked plain hdepth hglobal hbound
  · intro scope
    obtain ⟨bound, hbound⟩ := (checkEntries_isOk plain).mpr scope.entries
    exact ⟨bound, ⟨checkDepth_eq_ok.mpr scope.depth, checkRequired_eq_ok.mpr scope.isGlobal⟩,
      hbound⟩

/-! ## Findings -/

def fieldFaults (heap : Heap) : (room : Nat) → Value → List Fault
  | 0, _ => [⟨[], .tooDeep⟩]
  | room + 1, v =>
    match heap.dict? v with
    | none => [⟨[], .notScope⟩]
    | some fields =>
      (checkOwn heap fields).faults ++
        match fieldOf fields "parent" with
        | none | some .null => []
        | some p => (fieldFaults heap room p).map (Fault.inside (.field "parent"))

/-- Whether the scope that is `k` parents outward does not fit, while it and all scopes around it
can be read, and those around it fit. -/
def Misshapen (heap : Heap) (v : Value) (k : Nat) (issue : Issue) : Prop :=
  ∃ w level outer, heap.outward k v = some w ∧ DescribesChain heap w (level :: outer) ∧
    0 ≤ level.depth ∧ Counted outer ∧ level.misfit outer = some issue

def shapeFaults (heap : Heap) (read : Value → Checked Snapshot) (fields : Metadata) :
    List Fault :=
  match both (checkOwn heap fields) (checkParent read fields) with
  | .ok x => (checkShape x.1.1.1 x.1.1.2 x.1.2 x.2).faults
  | .error _ => []

theorem faults_checkFields (heap : Heap) (read : Value → Checked Snapshot) (fields : Metadata) :
    (checkFields heap read fields).faults = (checkOwn heap fields).faults ++
      (checkParent read fields).faults ++ shapeFaults heap read fields := by
  rw [checkFields_eq, ← faults_both, shapeFaults]
  cases both (checkOwn heap fields) (checkParent read fields) with
  | ok x => rfl
  | error fs => exact (List.append_nil fs).symm

/-- A scope has a finding about its shape exactly if it is misshapen. -/
theorem mem_shapeFaults (snapshots : Array Snapshot) (plain : ∀ id, ¬ heap.Holds v (.snapshot id))
    (nests : Nests heap v n) (enough : n ≤ room + 1) (dict : heap.dict? v = some fields)
    {fault : Fault} :
    fault ∈ shapeFaults heap (checkScope heap snapshots room []) fields ↔
      fault.place = [] ∧ Misshapen heap v 0 fault.issue := by
  have hplain : ∀ w, fieldOf fields "variables" = some w → ∀ id, w ≠ .snapshot id :=
    fun w hw id h => plain_field plain dict hw id (h ▸ .self _)
  constructor
  · intro hfault
    rw [shapeFaults] at hfault
    split at hfault
    next x hboth =>
      obtain ⟨⟨⟨depth, isGlobal⟩, bound⟩, parent⟩ := x
      obtain ⟨hown, hparent⟩ := both_eq_ok.mp hboth
      obtain ⟨outer, hon, hcounted, hdescribes⟩ := parentOn_of_ok plain dict hparent
      rw [faults_checkShape hon hcounted] at hfault
      obtain ⟨issue, hissue, rfl⟩ := List.mem_map.mp hfault
      exact ⟨rfl, v, _, outer, rfl, hdescribes _ ((checkOwn_isOk hplain).mp ⟨bound, hown⟩),
        Int.natCast_nonneg depth, hcounted, Option.mem_toList.mp hissue⟩
    next => cases hfault
  · rintro ⟨hplace, w, ⟨i, isGlobal⟩, outer, hw, hdescribed, hnonneg, hcounted, hmisfit⟩
    cases hw
    obtain ⟨depth, rfl⟩ := Int.eq_ofNat_of_zero_le hnonneg
    have hroom : outer.length ≤ room := by
      have hlength : n = outer.length + 1 := nests.unique hdescribed.nests
      omega
    obtain ⟨hscope, parent, hparent, hon⟩ :=
      parentOn_of_describes snapshots hdescribed dict hcounted hroom
    obtain ⟨bound, hown⟩ := (checkOwn_isOk hplain).mpr hscope
    have hboth := both_eq_ok (x := (((depth, isGlobal), bound), parent)).mpr ⟨hown, hparent⟩
    rw [shapeFaults, hboth]
    simp only [faults_checkShape hon hcounted]
    exact List.mem_map.mpr ⟨fault.issue, Option.mem_toList.mpr hmisfit, by rw [← hplace]⟩

theorem length_shapeFaults_le (read : Value → Checked Snapshot) :
    (shapeFaults heap read fields).length ≤ 1 := by
  rw [shapeFaults]
  split
  next x _ =>
    rcases checkShape_cases x.1.1.1 x.1.1.2 x.1.2 x.2 with ⟨s, hs⟩ | ⟨issue, hs⟩ <;> rw [hs]
    · exact Nat.zero_le 1
    · exact Nat.le_refl 1
  next => exact Nat.zero_le 1

/-- Where a scope has a finding about its shape, none is inside its parent. -/
theorem shapeFaults_eq_nil {read : Value → Checked Snapshot}
    (found : (checkParent read fields).faults ≠ []) : shapeFaults heap read fields = [] := by
  rw [shapeFaults]
  split
  next x hboth =>
    rw [(both_eq_ok.mp hboth).2] at found
    exact absurd rfl found
  next => rfl

/-! ## Data -/

theorem fieldFaults_of_absent (absent : heap.dict? v = none) :
    fieldFaults heap (room + 1) v = [⟨[], .notScope⟩] := by
  rw [fieldFaults, absent]

theorem fieldFaults_of_alone (dict : heap.dict? v = some fields)
    (alone : ∀ p, fieldOf fields "parent" = some p → p = .null) :
    fieldFaults heap (room + 1) v = (checkOwn heap fields).faults := by
  simp only [fieldFaults, dict]
  split
  next => exact List.append_nil _
  next => exact List.append_nil _
  next p hnull hp => exact absurd (alone p hp) hnull

theorem fieldFaults_of_parent {p : Value} (dict : heap.dict? v = some fields)
    (parent : fieldOf fields "parent" = some p) (given : p ≠ .null) :
    fieldFaults heap (room + 1) v = (checkOwn heap fields).faults ++
      (fieldFaults heap room p).map (Fault.inside (.field "parent")) := by
  simp only [fieldFaults, dict]
  split
  next hnone => cases hnone.symm.trans parent
  next hnull => exact absurd (Option.some.inj (parent.symm.trans hnull)) given
  next q _ hq =>
    cases parent.symm.trans hq
    rfl

theorem faults_checkParent (read : Value → Checked Snapshot) {p : Value}
    (parent : fieldOf fields "parent" = some p) (given : p ≠ .null) :
    (checkParent read fields).faults =
      (read p).faults.map (Fault.inside (.field "parent")) := by
  rw [checkParent, faults_inside]
  split
  next hnone => cases hnone.symm.trans parent
  next hnull => exact absurd (Option.some.inj (parent.symm.trans hnull)) given
  next q _ hq =>
    cases parent.symm.trans hq
    cases read p <;> rfl

/-- A scope further outward is misshapen exactly if it is, seen from the parent. -/
theorem misshapen_succ {p : Value} (dict : heap.dict? v = some fields)
    (parent : fieldOf fields "parent" = some p) {k : Nat} {issue : Issue} :
    Misshapen heap v (k + 1) issue ↔ Misshapen heap p k issue := by
  simp only [Misshapen, Heap.outward, dict, parent, Option.bind_some]

theorem not_misshapen_of_absent (absent : heap.dict? v = none) {k : Nat} {issue : Issue} :
    ¬ Misshapen heap v k issue := by
  rintro ⟨w, level, outer, hw, hdescribed, -⟩
  cases k with
  | zero =>
    cases hw
    cases hdescribed with
    | last dict => cases absent.symm.trans dict
    | inside dict => cases absent.symm.trans dict
  | succ k =>
    rw [Heap.outward, absent] at hw
    cases hw

theorem lt_of_misshapen (nests : Nests heap v n) {k : Nat} {issue : Issue}
    (misshapen : Misshapen heap v k issue) : k < n := by
  induction nests generalizing k with
  | stray absent => exact absurd misshapen (not_misshapen_of_absent absent)
  | @last v fields dict alone =>
    cases k with
    | zero => exact Nat.one_pos
    | succ k =>
      cases hp : fieldOf fields "parent" with
      | none =>
        obtain ⟨w, level, outer, hw, -⟩ := misshapen
        simp only [Heap.outward, dict, hp, Option.bind_some, Option.bind_none] at hw
        cases hw
      | some p =>
        cases alone p hp
        exact absurd ((misshapen_succ dict hp).mp misshapen) (not_misshapen_of_absent rfl)
  | inside dict parent _ _ ih =>
    cases k with
    | zero => exact Nat.succ_pos _
    | succ k => exact Nat.succ_lt_succ (ih ((misshapen_succ dict parent).mp misshapen))

theorem misshapen_zero {level : Level} {outer : List Level}
    (described : DescribesChain heap v (level :: outer)) (nonneg : 0 ≤ level.depth)
    {issue : Issue} :
    Misshapen heap v 0 issue ↔ Counted outer ∧ level.misfit outer = some issue := by
  constructor
  · rintro ⟨w, level', outer', hw, hdescribed, -, hcounted, hmisfit⟩
    cases hw
    cases described.unique hdescribed
    exact ⟨hcounted, hmisfit⟩
  · rintro ⟨hcounted, hmisfit⟩
    exact ⟨v, level, outer, rfl, described, nonneg, hcounted, hmisfit⟩

/-- Of data that describes a chain some scope is misshapen exactly if the levels do not count
down. -/
theorem exists_misshapen_iff {levels : List Level} (described : DescribesChain heap v levels)
    (nonneg : ∀ level ∈ levels, 0 ≤ level.depth) :
    (∃ k issue, Misshapen heap v k issue) ↔ ¬ Counted levels := by
  have hown : ∀ {v level outer}, DescribesChain heap v (level :: outer) → 0 ≤ level.depth →
      ((∃ issue, Misshapen heap v 0 issue) ↔ Counted outer ∧ level.misfit outer ≠ none) := by
    intro v level outer described nonneg
    simp only [misshapen_zero described nonneg, exists_and_left, Option.ne_none_iff_exists']
  induction described with
  | @last v fields level dict scope alone =>
    have hself : DescribesChain heap v [level] := .last dict scope alone
    have houter : ¬ ∃ k issue, Misshapen heap v (k + 1) issue := fun ⟨k, issue, h⟩ =>
      absurd (lt_of_misshapen hself.nests h) (Nat.not_lt.mpr (Nat.le_add_left 1 k))
    rw [← Nat.or_exists_add_one, or_iff_left houter, hown hself (nonneg level List.mem_cons_self),
      counted_cons]
    tauto
  | @inside v p fields level outer dict scope parent given enclosing ih =>
    obtain ⟨hlevel, houters⟩ := List.forall_mem_cons.mp nonneg
    have houter : (∃ k issue, Misshapen heap v (k + 1) issue) ↔ ¬ Counted outer := by
      simp only [misshapen_succ dict parent]
      exact ih houters
    rw [← Nat.or_exists_add_one, hown (.inside dict scope parent given enclosing) hlevel, houter,
      counted_cons]
    tauto

/-- Whether `shape` has the findings about misshapen scopes, and at most one. -/
structure Shapes (heap : Heap) (v : Value) (shape : List Fault) : Prop where
  once : shape.length ≤ 1
  mem : ∀ fault, fault ∈ shape ↔
    ∃ k, fault.place = List.replicate k (.field "parent") ∧ Misshapen heap v k fault.issue

theorem Shapes.isShape {shape : List Fault} (shapes : Shapes heap v shape) {f : Fault}
    (mem : f ∈ shape) : f.issue.isShape = true := by
  obtain ⟨k, -, w, level, outer, -, -, -, -, hmisfit⟩ := (shapes.mem f).mp mem
  exact isShape_of_misfit hmisfit

theorem Shapes.eq_singleton {shape : List Fault} (shapes : Shapes heap v shape) {f : Fault}
    (mem : f ∈ shape) : shape = [f] := by
  obtain ⟨g, rfl⟩ := List.length_eq_one_iff.mp
    (Nat.le_antisymm shapes.once (List.length_pos_of_mem mem))
  rw [List.mem_singleton.mp mem]

theorem Shapes.ne_nil_iff {shape : List Fault} (shapes : Shapes heap v shape) :
    shape ≠ [] ↔ ∃ k issue, Misshapen heap v k issue := by
  constructor
  · intro hne
    obtain ⟨f, hf⟩ := List.exists_mem_of_ne_nil shape hne
    obtain ⟨k, -, hmisshapen⟩ := (shapes.mem f).mp hf
    exact ⟨k, f.issue, hmisshapen⟩
  · rintro ⟨k, issue, hmisshapen⟩
    exact List.ne_nil_of_mem ((shapes.mem ⟨_, issue⟩).mpr ⟨k, rfl, hmisshapen⟩)

theorem shapes_of_absent (absent : heap.dict? v = none) : Shapes heap v [] where
  once := Nat.zero_le 1
  mem _ := iff_of_false List.not_mem_nil fun ⟨_, _, misshapen⟩ =>
    not_misshapen_of_absent absent misshapen

theorem shapes_of_alone (snapshots : Array Snapshot) (room : Nat)
    (plain : ∀ id, ¬ heap.Holds v (.snapshot id))
    (dict : heap.dict? v = some fields)
    (alone : ∀ p, fieldOf fields "parent" = some p → p = .null) :
    Shapes heap v (shapeFaults heap (checkScope heap snapshots room []) fields) where
  once := length_shapeFaults_le _
  mem fault := by
    have hself : Nests heap v 1 := .last dict alone
    rw [mem_shapeFaults snapshots plain hself (Nat.le_add_left 1 room) dict]
    constructor
    · rintro ⟨hplace, hmisshapen⟩
      exact ⟨0, hplace, hmisshapen⟩
    · rintro ⟨k, hplace, hmisshapen⟩
      obtain rfl : k = 0 := Nat.lt_one_iff.mp (lt_of_misshapen hself hmisshapen)
      exact ⟨hplace, hmisshapen⟩

theorem Shapes.cons {p : Value} {shape own : List Fault} (shapes : Shapes heap p shape)
    (dict : heap.dict? v = some fields) (parent : fieldOf fields "parent" = some p)
    (once : (shape.map (Fault.inside (.field "parent")) ++ own).length ≤ 1)
    (mem : ∀ fault, fault ∈ own ↔ fault.place = [] ∧ Misshapen heap v 0 fault.issue) :
    Shapes heap v (shape.map (Fault.inside (.field "parent")) ++ own) where
  once := once
  mem fault := by
    rw [List.mem_append, mem]
    constructor
    · rintro (hfault | ⟨hplace, hmisshapen⟩)
      · obtain ⟨g, hg, rfl⟩ := List.mem_map.mp hfault
        obtain ⟨k, hplace, hmisshapen⟩ := (shapes.mem g).mp hg
        exact ⟨k + 1, congrArg (_ :: ·) hplace, (misshapen_succ dict parent).mpr hmisshapen⟩
      · exact ⟨0, hplace, hmisshapen⟩
    · rintro ⟨k, hplace, hmisshapen⟩
      cases k with
      | zero => exact Or.inr ⟨hplace, hmisshapen⟩
      | succ k =>
        refine Or.inl (List.mem_map.mpr ⟨⟨List.replicate k (.field "parent"), fault.issue⟩,
          (shapes.mem _).mpr ⟨k, rfl, (misshapen_succ dict parent).mp hmisshapen⟩, ?_⟩)
        rw [Fault.inside, ← List.replicate_succ, ← hplace]

/-- What is found in data without snapshots that nests no more scopes than there is room for: the
findings about its fields, and behind them one about a shape if a scope is misshapen. -/
theorem faults_checkScope (nests : Nests heap v n) (enough : n ≤ room)
    (plain : ∀ id, ¬ heap.Holds v (.snapshot id)) :
    ∃ shape, Shapes heap v shape ∧
      (checkScope heap snapshots room [] v).faults = fieldFaults heap room v ++ shape := by
  induction nests generalizing room with
  | @stray v absent =>
    refine ⟨[], shapes_of_absent absent, ?_⟩
    cases room with
    | zero => cases v <;> rfl
    | succ room =>
      rw [fieldFaults_of_absent absent]
      cases v with
      | snapshot id => exact absurd (.self _) (plain id)
      | container id =>
        simp only [checkScope, List.contains_nil, absent]
        rfl
      | _ => rfl
  | @last v fields dict alone =>
    obtain ⟨room, rfl⟩ := Nat.exists_eq_add_of_le' enough
    refine ⟨_, shapes_of_alone snapshots room plain dict alone, ?_⟩
    rw [checkScope_of_nests (.last dict alone) dict, faults_checkFields,
      checkParent_eq_none.mpr alone, fieldFaults_of_alone dict alone, faults_ok, List.append_nil]
  | @inside v p fields n dict parent given enclosing ih =>
    obtain ⟨room, rfl⟩ : ∃ r, room = r + 1 := Nat.exists_eq_add_one.mpr (by omega)
    have hself : Nests heap v (n + 1) := .inside dict parent given enclosing
    obtain ⟨shape, hshapes, hfaults⟩ :=
      ih (Nat.le_of_succ_le_succ enough) (plain_field plain dict parent)
    have hparent := faults_checkParent (checkScope heap snapshots room []) parent given
    refine ⟨_, hshapes.cons dict parent ?_ fun _ =>
      mem_shapeFaults snapshots plain hself enough dict, ?_⟩
    · cases shape with
      | nil => exact length_shapeFaults_le _
      | cons fault rest =>
        rw [shapeFaults_eq_nil (by simp [hparent, hfaults]), List.append_nil, List.length_map]
        exact hshapes.once
    · rw [checkScope_of_nests hself dict, faults_checkFields, hparent, hfaults,
        fieldFaults_of_parent dict parent given, List.map_append]
      simp only [List.append_assoc]

/-! ## All findings -/

theorem orderly_checkParent {kind : Issue → Prop} {read : Value → Checked Snapshot}
    (inside : ∀ p, (read p).Orderly kind) : (checkParent read fields).Orderly kind := by
  refine Orderly.inside ?_
  split
  next => exact orderly_ok none
  next => exact orderly_ok none
  next p _ _ =>
    have h := (inside p).map fun s => some (asParent p s)
    cases hp : read p with
    | ok s => exact orderly_ok (some (asParent p s))
    | error fs =>
      rw [hp] at h
      exact h

/-- What is found in the fields of a scope precedes what is found in its parent. -/
theorem orderly_checkFields (proper : heap.Proper) {read : Value → Checked Snapshot}
    (inside : ∀ p, (read p).Orderly fun _ => True) :
    (checkFields heap read fields).Orderly fun _ => True := by
  have hown : (checkOwn heap fields).Orderly fun _ => True :=
    (orderly_checkOwn proper).imp fun _ _ => trivial
  rw [checkFields_eq]
  refine (hown.both (orderly_checkParent inside) fun f hf g hg => ?_).bind fun x => ?_
  · obtain ⟨g, rfl⟩ := in_inside _ _ g hg
    exact precedes_parent hf g
  · rcases checkShape_cases x.1.1.1 x.1.1.2 x.1.2 x.2 with ⟨s, hs⟩ | ⟨issue, hs⟩ <;> rw [hs]
    · exact orderly_ok s
    · exact orderly_fail trivial

theorem orderly_checkScope (proper : heap.Proper) :
    (checkScope heap snapshots room seen v).Orderly fun _ => True := by
  induction room generalizing seen v with
  | zero =>
    unfold checkScope
    split <;> exact orderly_fail trivial
  | succ room ih =>
    unfold checkScope
    split
    next =>
      split
      next s _ => exact orderly_ok s
      next => exact orderly_fail trivial
    next =>
      split
      next => exact orderly_fail trivial
      next =>
        split
        next => exact orderly_checkFields proper fun p => ih
        next => exact orderly_fail trivial
    next => exact orderly_fail trivial

theorem isShape_of_fieldFaults (proper : heap.Proper) {f : Fault}
    (found : f ∈ fieldFaults heap room v) : f.issue.isShape = false := by
  induction room generalizing v f with
  | zero => rw [List.mem_singleton.mp found]; rfl
  | succ room ih =>
    rw [fieldFaults] at found
    split at found
    next => rw [List.mem_singleton.mp found]; rfl
    next =>
      rcases List.mem_append.mp found with found | found
      · exact (orderly_checkOwn proper).issues f found
      · split at found
        next => cases found
        next => cases found
        next =>
          obtain ⟨g, hg, rfl⟩ := List.mem_map.mp found
          have hfield := ih hg
          exact hfield

theorem faults_checkOwn_eq_nil (proper : heap.Proper)
    (plain : ∀ v, fieldOf fields "variables" = some v → ∀ id, v ≠ .snapshot id) :
    (checkOwn heap fields).faults = [] ↔
      ∃ level, DescribesScope heap fields level ∧ 0 ≤ level.depth := by
  constructor
  · intro hnil
    obtain ⟨⟨⟨depth, isGlobal⟩, bound⟩, hown⟩ := (orderly_checkOwn proper).succeeds hnil
    exact ⟨_, (checkOwn_isOk plain).mp ⟨bound, hown⟩, Int.natCast_nonneg depth⟩
  · rintro ⟨⟨i, isGlobal⟩, scope, hnonneg⟩
    obtain ⟨depth, rfl⟩ := Int.eq_ofNat_of_zero_le hnonneg
    obtain ⟨bound, hown⟩ := (checkOwn_isOk plain).mpr scope
    rw [hown, faults_ok]

theorem fieldFaults_eq_nil (proper : heap.Proper) (nests : Nests heap v n) (enough : n ≤ room)
    (plain : ∀ id, ¬ heap.Holds v (.snapshot id)) :
    fieldFaults heap room v = [] ↔
      ∃ levels, DescribesChain heap v levels ∧ ∀ level ∈ levels, 0 ≤ level.depth := by
  have hplain : ∀ {v fields}, heap.dict? v = some fields →
      (∀ id, ¬ heap.Holds v (.snapshot id)) →
      ∀ w, fieldOf fields "variables" = some w → ∀ id, w ≠ .snapshot id :=
    fun dict plain w hw id h => plain_field plain dict hw id (h ▸ .self _)
  induction nests generalizing room with
  | @stray v absent =>
    refine iff_of_false ?_ ?_
    · cases room with
      | zero => exact List.cons_ne_nil _ _
      | succ room =>
        rw [fieldFaults_of_absent absent]
        exact List.cons_ne_nil _ _
    · rintro ⟨levels, hdescribed, -⟩
      cases hdescribed with
      | last dict => cases absent.symm.trans dict
      | inside dict => cases absent.symm.trans dict
  | @last v fields dict alone =>
    obtain ⟨room, rfl⟩ := Nat.exists_eq_add_of_le' enough
    rw [fieldFaults_of_alone dict alone, faults_checkOwn_eq_nil proper (hplain dict plain)]
    constructor
    · rintro ⟨level, scope, hnonneg⟩
      exact ⟨[level], .last dict scope alone, fun l hl => List.mem_singleton.mp hl ▸ hnonneg⟩
    · rintro ⟨levels, hdescribed, hnonneg⟩
      cases hdescribed with
      | last dict' scope _ =>
        cases dict.symm.trans dict'
        exact ⟨_, scope, hnonneg _ List.mem_cons_self⟩
      | inside dict' _ parent given _ =>
        cases dict.symm.trans dict'
        exact absurd (alone _ parent) given
  | @inside v p fields n dict parent given enclosing ih =>
    obtain ⟨room, rfl⟩ : ∃ r, room = r + 1 := Nat.exists_eq_add_one.mpr (by omega)
    have hparent : fieldFaults heap room p = [] ↔
        ∃ levels, DescribesChain heap p levels ∧ ∀ level ∈ levels, 0 ≤ level.depth :=
      ih (Nat.le_of_succ_le_succ enough) (plain_field plain dict parent)
    rw [fieldFaults_of_parent dict parent given, List.append_eq_nil_iff, List.map_eq_nil_iff,
      faults_checkOwn_eq_nil proper (hplain dict plain), hparent]
    constructor
    · rintro ⟨⟨level, scope, hnonneg⟩, outer, houter, houters⟩
      exact ⟨level :: outer, .inside dict scope parent given houter,
        List.forall_mem_cons.mpr ⟨hnonneg, houters⟩⟩
    · rintro ⟨levels, hdescribed, hnonneg⟩
      cases hdescribed with
      | last dict' _ alone =>
        cases dict.symm.trans dict'
        exact absurd (alone _ parent) given
      | inside dict' scope parent' _ houter =>
        cases dict.symm.trans dict'
        cases parent.symm.trans parent'
        obtain ⟨hlevel, houters⟩ := List.forall_mem_cons.mp hnonneg
        exact ⟨⟨_, scope, hlevel⟩, _, houter, houters⟩

theorem not_prefix_of_precedes {p : List Place} {k : Nat}
    (precedes : Place.Precedes p (List.replicate k (.field "parent"))) :
    ¬ List.replicate k (.field "parent") <+: p := by
  induction k generalizing p with
  | zero => cases precedes
  | succ k ih =>
    rw [List.replicate_succ] at precedes ⊢
    intro hprefix
    cases precedes with
    | apart before =>
      obtain ⟨rfl, -⟩ := List.cons_prefix_cons.mp hprefix
      exact absurd before (by unfold Place.Before; decide)
    | inside further => exact ih further (List.cons_prefix_cons.mp hprefix).2

structure Findings (heap : Heap) (data : Value) (faults : List Fault) : Prop where
  /-- Of two findings, the first is about what is checked first. -/
  ordered : faults.Pairwise Fault.Precedes
  /-- All findings about fields are there, and behind them those about a shape. -/
  parts : faults = fieldFaults heap scopeLimit data ++ faults.filter (·.issue.isShape)
  /-- At most one is about a shape. -/
  once : (faults.filter (·.issue.isShape)).length ≤ 1
  /-- It is about the misshapen scope. -/
  shape : ∀ fault, fault ∈ faults ∧ fault.issue.isShape = true ↔
    ∃ k, fault.place = List.replicate k (.field "parent") ∧ Misshapen heap data k fault.issue
  /-- Nothing else is found in that scope or around it. -/
  alone : ∀ fault ∈ faults, fault.issue.isShape = true →
    ∀ other ∈ faults, fault.place <+: other.place → other = fault
  /-- If all fields can be read, it is all that is found, and nothing is if the levels count
  down. -/
  only : ∀ levels, DescribesChain heap data levels → (∀ level ∈ levels, 0 ≤ level.depth) →
    (faults = [] ↔ Counted levels) ∧
      (faults ≠ [] → ∃ fault, faults = [fault] ∧ fault.issue.isShape = true)

theorem findings_ofValue (proper : heap.Proper) {data : Value} (nests : Nests heap data n)
    (few : n < 256) (plain : ∀ id, ¬ heap.Holds data (.snapshot id)) :
    Findings heap data (ofValue heap snapshots data).faults := by
  have hordered : (ofValue heap snapshots data).faults.Pairwise Fault.Precedes :=
    (orderly_checkScope proper).ordered
  obtain ⟨shape, hshapes, hparts⟩ : ∃ shape, Shapes heap data shape ∧
      (ofValue heap snapshots data).faults = fieldFaults heap scopeLimit data ++ shape :=
    faults_checkScope nests (Nat.le_of_lt_succ few) plain
  rw [hparts] at hordered ⊢
  have hshape : ∀ f, f ∈ fieldFaults heap scopeLimit data ++ shape ∧ f.issue.isShape = true ↔
      f ∈ shape := by
    intro f
    refine ⟨fun ⟨hf, hissue⟩ => (List.mem_append.mp hf).resolve_left fun hf => ?_,
      fun hf => ⟨List.mem_append_right _ hf, hshapes.isShape hf⟩⟩
    rw [isShape_of_fieldFaults proper hf] at hissue
    cases hissue
  have hfilter : (fieldFaults heap scopeLimit data ++ shape).filter (·.issue.isShape) = shape := by
    rw [List.filter_append, List.filter_eq_nil_iff.mpr, List.nil_append, List.filter_eq_self.mpr]
    · exact fun f hf => hshapes.isShape hf
    · intro f hf
      simp [isShape_of_fieldFaults proper hf]
  refine ⟨hordered, by rw [hfilter], by rw [hfilter]; exact hshapes.once, fun f => ?_,
    fun f hf hissue g hg hprefix => ?_, fun levels described nonneg => ?_⟩
  · rw [hshape, hshapes.mem]
  · have hf := (hshape f).mp ⟨hf, hissue⟩
    obtain ⟨k, hplace, -⟩ := (hshapes.mem f).mp hf
    rcases List.mem_append.mp hg with hg | hg
    · have hprecedes := (List.pairwise_append.mp hordered).2.2 g hg f hf
      rw [Fault.Precedes, hplace] at hprecedes
      exact absurd (hplace ▸ hprefix) (not_prefix_of_precedes hprecedes)
    · rw [hshapes.eq_singleton hf] at hg
      exact List.mem_singleton.mp hg
  · have hnil : fieldFaults heap scopeLimit data = [] :=
      (fieldFaults_eq_nil proper nests (Nat.le_of_lt_succ few) plain).mpr
        ⟨levels, described, nonneg⟩
    rw [hnil, List.nil_append]
    refine ⟨?_, fun hne => ?_⟩
    · rw [← not_iff_not, ← exists_misshapen_iff described nonneg]
      exact hshapes.ne_nil_iff
    · obtain ⟨f, hf⟩ := List.exists_mem_of_ne_nil shape hne
      exact ⟨f, hshapes.eq_singleton hf, hshapes.isShape hf⟩

end Snapshot
end ScopeChain
