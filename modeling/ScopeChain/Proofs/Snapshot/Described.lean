/-
The data that describes a chain of scopes.

A dict describes a scope if its fields can be read: a depth and a global flag, variables that
are missing or a list of dicts, and a parent that is missing or null or describes a scope again.
Such data describes a chain level by level, and a value describes at most one.  A reader of data
accepts exactly what describes a chain whose levels count down to a global one, if there is room
for the levels.  It is never led in circles: a dict on the way outward that came before would
describe a chain and a part of it.
-/
import ScopeChain.Proofs.Snapshot.Checked
import ScopeChain.Proofs.Value.Steady

namespace ScopeChain

def FieldReads {α : Type} (fields : Metadata) (name : String) (read : Value → Except Issue α)
    (a : α) : Prop :=
  ∃ v, fieldOf fields name = some v ∧ read v = .ok a

theorem FieldReads.unique {α : Type} {fields : Metadata} {name : String}
    {read : Value → Except Issue α} {a b : α} (first : FieldReads fields name read a)
    (second : FieldReads fields name read b) : a = b := by
  obtain ⟨v, hv, ha⟩ := first
  obtain ⟨w, hw, hb⟩ := second
  cases hv.symm.trans hw
  exact Except.ok.inj (ha.symm.trans hb)

theorem mem_of_fieldOf {fields : Metadata} {name : String} {v : Value}
    (h : fieldOf fields name = some v) : ∃ k, (k, v) ∈ fields := by
  obtain ⟨⟨k, w⟩, hfound, rfl⟩ := Option.map_eq_some_iff.mp h
  exact ⟨k, List.mem_of_find?_eq_some hfound⟩

structure Level where
  depth : Int
  isGlobal : Bool

/-- Whether the levels of a chain count down to a global one. -/
def Counted : List Level → Prop
  | [] => True
  | level :: outer =>
    level.depth = outer.length ∧ level.isGlobal = outer.isEmpty ∧ Counted outer

/-! ## Descriptions -/

def KeysReadable (metadata : Metadata) : Prop := ∀ p ∈ metadata, ∃ s, Coerce.keyText p.1 = .ok s

structure DescribesEntry (heap : Heap) (fields : Metadata) : Prop where
  name : ∃ s, FieldReads fields "name" Coerce.text s
  metadata : ∀ v, fieldOf fields "meta" = some v → v ≠ .null →
    ∃ metadata, heap.dict? v = some metadata ∧ KeysReadable metadata

def DescribeEntries (heap : Heap) (items : List Value) : Prop :=
  ∀ v ∈ items, ∃ fields, heap.dict? v = some fields ∧ DescribesEntry heap fields

/-- Whether the fields of a dict, but for its parent, describe a scope on a level. -/
structure DescribesScope (heap : Heap) (fields : Metadata) (level : Level) : Prop where
  depth : FieldReads fields "depth" Coerce.integer level.depth
  isGlobal : FieldReads fields "is_global" Coerce.boolean level.isGlobal
  entries : ∀ v, fieldOf fields "variables" = some v →
    ∃ items, heap.items? v = some items ∧ DescribeEntries heap items

/-- Whether a value is a dict that describes the innermost scope of a chain, with the scopes that
enclose it as its parent. -/
inductive DescribesChain (heap : Heap) : Value → List Level → Prop where
  | last {v : Value} {fields : Metadata} {level : Level} (dict : heap.dict? v = some fields)
    (scope : DescribesScope heap fields level)
    (alone : ∀ p, fieldOf fields "parent" = some p → p = .null) : DescribesChain heap v [level]
  | inside {v p : Value} {fields : Metadata} {level : Level} {outer : List Level}
    (dict : heap.dict? v = some fields) (scope : DescribesScope heap fields level)
    (parent : fieldOf fields "parent" = some p) (given : p ≠ .null)
    (enclosing : DescribesChain heap p outer) : DescribesChain heap v (level :: outer)

theorem DescribesScope.unique {heap : Heap} {fields : Metadata} {level other : Level}
    (first : DescribesScope heap fields level) (second : DescribesScope heap fields other) :
    level = other := by
  obtain ⟨depth, isGlobal⟩ := level
  obtain ⟨depth', isGlobal'⟩ := other
  cases first.depth.unique second.depth
  cases first.isGlobal.unique second.isGlobal
  rfl

theorem DescribesScope.plain {heap : Heap} {fields : Metadata} {level : Level}
    (scope : DescribesScope heap fields level) {v : Value}
    (given : fieldOf fields "variables" = some v) (id : SnapshotId) : v ≠ .snapshot id := by
  obtain ⟨items, hitems, -⟩ := scope.entries v given
  rintro rfl
  cases hitems

/-- A value describes one chain at most. -/
theorem DescribesChain.unique {heap : Heap} {v : Value} {levels others : List Level}
    (first : DescribesChain heap v levels) (second : DescribesChain heap v others) :
    levels = others := by
  induction first generalizing others with
  | last dict scope alone =>
    cases second with
    | last dict' scope' _ =>
      cases dict.symm.trans dict'
      rw [scope.unique scope']
    | inside dict' _ parent given _ =>
      cases dict.symm.trans dict'
      exact absurd (alone _ parent) given
  | inside dict scope parent given _ ih =>
    cases second with
    | last dict' _ alone =>
      cases dict.symm.trans dict'
      exact absurd (alone _ parent) given
    | inside dict' scope' parent' _ enclosing' =>
      cases dict.symm.trans dict'
      cases parent.symm.trans parent'
      rw [scope.unique scope', ih enclosing']

namespace Snapshot

variable {heap : Heap} {fields : Metadata}

/-! ## Fields -/

theorem checkRequired_eq_ok {α : Type} {read : Value → Except Issue α} {name : String} {a : α} :
    checkRequired read fields name = .ok a ↔ FieldReads fields name read a := by
  rw [checkRequired, Checked.inside_eq_ok, FieldReads]
  cases fieldOf fields name with
  | none => simp [Checked.fail]
  | some v => cases hv : read v <;> simp [Checked.ofCoercion, Checked.fail, hv]

theorem checkDepth_eq_ok {depth : Nat} :
    checkDepth fields = .ok depth ↔ FieldReads fields "depth" Coerce.integer depth := by
  have hfrom : ∀ v (i : Int), Coerce.integerFrom 0 v = .ok i ↔
      Coerce.integer v = .ok i ∧ 0 ≤ i := by
    intro v i
    rw [Coerce.integerFrom]
    cases Coerce.integer v with
    | error e => simp
    | ok j =>
      simp only [Except.ok.injEq]
      split <;> grind
  rw [checkDepth]
  constructor
  · intro h
    cases hread : checkRequired (Coerce.integerFrom 0) fields "depth" with
    | error fs =>
      rw [hread] at h
      cases h
    | ok i =>
      rw [hread] at h
      cases h
      obtain ⟨v, hv, hi⟩ := checkRequired_eq_ok.mp hread
      obtain ⟨hinteger, hnonneg⟩ := (hfrom v i).mp hi
      rw [Int.toNat_of_nonneg hnonneg]
      exact ⟨v, hv, hinteger⟩
  · rintro ⟨v, hv, hinteger⟩
    have hread : checkRequired (Coerce.integerFrom 0) fields "depth" = .ok (depth : Int) :=
      checkRequired_eq_ok.mpr ⟨v, hv, (hfrom v depth).mpr ⟨hinteger, Int.natCast_nonneg depth⟩⟩
    rw [hread]
    rfl

/-! ## Variables -/

theorem checkKeys_isOk {metadata : Metadata} :
    (∃ pairs, checkKeys metadata = .ok pairs) ↔ KeysReadable metadata := by
  induction metadata with
  | nil => exact iff_of_true ⟨[], rfl⟩ fun p hp => absurd hp List.not_mem_nil
  | cons p rest ih =>
    obtain ⟨k, v⟩ := p
    rw [KeysReadable, List.forall_mem_cons, ← KeysReadable, ← ih, checkKeys]
    cases Coerce.keyText k <;> cases checkKeys rest <;> simp

theorem checkMetadata_isOk {metadata : Metadata} :
    (∃ checked, checkMetadata metadata = .ok checked) ↔ KeysReadable metadata := by
  rw [← checkKeys_isOk, checkMetadata]
  cases checkKeys metadata <;> simp

theorem checkOptionalMetadata_isOk :
    (∃ metadata, checkOptionalMetadata heap fields = .ok metadata) ↔
      ∀ v, fieldOf fields "meta" = some v → v ≠ .null →
        ∃ metadata, heap.dict? v = some metadata ∧ KeysReadable metadata := by
  simp only [checkOptionalMetadata, Checked.inside_eq_ok]
  split
  next hnone => simp [hnone]
  next hnull => simp [hnull]
  next v hnull hv =>
    have hne : v ≠ .null := hnull
    simp only [hv, Option.some.injEq, forall_eq', ne_eq, hne, not_false_eq_true, forall_const]
    cases heap.dict? v with
    | none => simp [Checked.fail]
    | some metadata =>
      simp only [Option.some.injEq, exists_eq_left', ← checkMetadata_isOk]
      cases checkMetadata metadata <;> simp

theorem checkEntryFields_isOk :
    (∃ e, checkEntryFields heap fields = .ok e) ↔ DescribesEntry heap fields := by
  have hsplit : DescribesEntry heap fields ↔
      (∃ s, checkRequired Coerce.text fields "name" = .ok s) ∧
        ∃ metadata, checkOptionalMetadata heap fields = .ok metadata := by
    simp only [checkRequired_eq_ok, checkOptionalMetadata_isOk]
    exact ⟨fun h => ⟨h.name, h.metadata⟩, fun h => ⟨h.1, h.2⟩⟩
  rw [hsplit]
  unfold checkEntryFields
  cases checkRequired Coerce.text fields "name" <;>
    cases checkOptionalMetadata heap fields <;> simp

theorem checkEntry_isOk {v : Value} :
    (∃ e, checkEntry heap v = .ok e) ↔
      ∃ fields, heap.dict? v = some fields ∧ DescribesEntry heap fields := by
  rw [checkEntry]
  cases heap.dict? v with
  | none => simp [Checked.fail]
  | some fields => simp [checkEntryFields_isOk]

theorem checkEntriesFrom_isOk {i : Nat} {items : List Value} :
    (∃ es, checkEntriesFrom heap i items = .ok es) ↔ DescribeEntries heap items := by
  induction items generalizing i with
  | nil => exact iff_of_true ⟨[], rfl⟩ fun v hv => absurd hv List.not_mem_nil
  | cons v rest ih =>
    rw [DescribeEntries, List.forall_mem_cons, ← DescribeEntries, ← ih (i := i + 1),
      ← checkEntry_isOk, checkEntriesFrom]
    cases checkEntry heap v <;> cases checkEntriesFrom heap (i + 1) rest <;> simp [Checked.inside]

theorem listItems?_of_ne_snapshot {v : Value} (plain : ∀ id, v ≠ .snapshot id) :
    listItems? heap v = heap.items? v := by
  cases v with
  | snapshot id => exact absurd rfl (plain id)
  | _ => rfl

theorem checkEntries_isOk
    (plain : ∀ v, fieldOf fields "variables" = some v → ∀ id, v ≠ .snapshot id) :
    (∃ es, checkEntries heap fields = .ok es) ↔
      ∀ v, fieldOf fields "variables" = some v →
        ∃ items, heap.items? v = some items ∧ DescribeEntries heap items := by
  simp only [checkEntries, Checked.inside_eq_ok]
  cases hv : fieldOf fields "variables" with
  | none => simp
  | some v =>
    simp only [Option.some.injEq, forall_eq', listItems?_of_ne_snapshot (plain v hv)]
    cases heap.items? v with
    | none => simp [Checked.fail]
    | some items => simp [checkEntriesFrom_isOk]

/-! ## Parents -/

section Parent

variable {read : Value → Checked Snapshot}

theorem checkParent_eq_none :
    checkParent read fields = .ok none ↔ ∀ p, fieldOf fields "parent" = some p → p = .null := by
  rw [checkParent, Checked.inside_eq_ok]
  split
  next hnone => simp [hnone]
  next hnull => simp [hnull]
  next v hnull hv =>
    have hne : v ≠ .null := hnull
    cases read v <;> simp [hv, hne]

theorem checkParent_eq_some {s : Snapshot} :
    checkParent read fields = .ok (some s) ↔
      ∃ p t, fieldOf fields "parent" = some p ∧ p ≠ .null ∧ read p = .ok t ∧
        s = asParent p t := by
  rw [checkParent, Checked.inside_eq_ok]
  split
  next hnone => simp [hnone]
  next hnull => simp [hnull]
  next v hnull hv =>
    have hne : v ≠ .null := hnull
    cases hread : read v <;> simp [hv, hne, hread, eq_comm]

end Parent

/-! ## Chains -/

/-- Whether a snapshot has a frame for each level, and as many frames behind the first as that
says. -/
structure HasLevels (s : Snapshot) (levels : List Level) : Prop where
  count : s.frames.length = levels.length
  depth : s.first.depth + 1 = levels.length

theorem HasLevels.asParent {s : Snapshot} {levels : List Level} (h : s.HasLevels levels)
    (v : Value) : (asParent v s).HasLevels levels := by
  have hframes := frames_asParent v s
  obtain ⟨hfirst, -⟩ := List.cons.inj hframes
  exact ⟨hframes ▸ h.count, hfirst ▸ h.depth⟩

variable {snapshots : Array Snapshot} {room : Nat} {seen : List ContainerId} {v : Value}
  {level : Level} {levels outer : List Level} {s t : Snapshot}

theorem hasLevels_last (first : Frame) (depth : first.depth = 0) (level : Level)
    (base : Option SnapshotId) : HasLevels ⟨first, [], base⟩ [level] :=
  ⟨rfl, congrArg (· + 1) depth⟩

theorem HasLevels.cons (h : t.HasLevels outer) {first : Frame}
    (depth : first.depth = t.first.depth + 1) (level : Level) (base : Option SnapshotId) :
    HasLevels ⟨first, t.frames, base⟩ (level :: outer) :=
  ⟨congrArg (· + 1) h.count, by rw [depth, h.depth]; rfl⟩

/-! ### Soundness -/

theorem describesScope_of_checked {depth : Nat} {isGlobal : Bool} {bound : List Entry}
    (plain : ∀ v, fieldOf fields "variables" = some v → ∀ id, v ≠ .snapshot id)
    (hdepth : checkDepth fields = .ok depth)
    (hglobal : checkRequired Coerce.boolean fields "is_global" = .ok isGlobal)
    (hbound : checkEntries heap fields = .ok bound) :
    DescribesScope heap fields ⟨depth, isGlobal⟩ where
  depth := checkDepth_eq_ok.mp hdepth
  isGlobal := checkRequired_eq_ok.mp hglobal
  entries := (checkEntries_isOk plain).mp ⟨bound, hbound⟩

theorem plain_field {name : String} {w : Value} (plain : ∀ id, ¬ heap.Holds v (.snapshot id))
    (dict : heap.dict? v = some fields) (given : fieldOf fields name = some w) :
    ∀ id, ¬ heap.Holds w (.snapshot id) := by
  obtain ⟨k, hmem⟩ := mem_of_fieldOf given
  exact fun id held => plain id (.entry dict hmem held)

/-- What a reader of data is expected to find in accepted data without snapshots: a chain that it
describes, of at most `room` levels, which count down. -/
def Finds (heap : Heap) (room : Nat) (v : Value) (s : Snapshot) : Prop :=
  ∃ levels, DescribesChain heap v levels ∧ Counted levels ∧ levels.length ≤ room ∧
    s.HasLevels levels

theorem finds_of_checkFields {read : Value → Checked Snapshot}
    (plain : ∀ id, ¬ heap.Holds v (.snapshot id)) (dict : heap.dict? v = some fields)
    (inside : ∀ {p t}, (∀ id, ¬ heap.Holds p (.snapshot id)) → read p = .ok t →
      Finds heap room p t)
    (accepted : checkFields heap read fields = .ok s) : Finds heap (room + 1) v s := by
  obtain ⟨depth, isGlobal, bound, parent, hdepth, hglobal, hbound, hparent, hshape⟩ :=
    checkFields_eq_ok.mp accepted
  obtain ⟨hroot, hcount, rfl⟩ := checkShape_eq_ok.mp hshape
  have hscope : DescribesScope heap fields ⟨depth, isGlobal⟩ :=
    describesScope_of_checked (fun w hw id h => plain_field plain dict hw id (h ▸ .self _))
      hdepth hglobal hbound
  cases parent with
  | none =>
    refine ⟨_, .last dict hscope (checkParent_eq_none.mp hparent), ?_, ?_, ?_⟩
    · exact ⟨congrArg Nat.cast hcount, hroot, trivial⟩
    · exact Nat.le_add_left 1 room
    · exact hasLevels_last _ hcount _ _
  | some t =>
    obtain ⟨p, inner, hp, given, hread, rfl⟩ := checkParent_eq_some.mp hparent
    obtain ⟨outer, hdescribed, hcounted, hroom, hlevels⟩ :=
      inside (plain_field plain dict hp) hread
    have hlevels := hlevels.asParent p
    have hlength : depth = outer.length := hcount.trans hlevels.depth
    refine ⟨_, .inside dict hscope hp given hdescribed, ⟨?_, ?_, hcounted⟩, ?_, ?_⟩
    · exact congrArg Nat.cast hlength
    · cases outer with
      | nil => cases hlevels.depth
      | cons => exact hroot
    · exact Nat.succ_le_succ hroom
    · exact hlevels.cons hcount _ _

/-- Data without snapshots that is accepted describes a chain whose levels count down. -/
theorem finds_of_checkScope (plain : ∀ id, ¬ heap.Holds v (.snapshot id))
    (accepted : checkScope heap snapshots room seen v = .ok s) : Finds heap room v s := by
  induction room generalizing seen v s with
  | zero =>
    unfold checkScope at accepted
    split at accepted <;> cases accepted
  | succ room ih =>
    unfold checkScope at accepted
    split at accepted
    next id => exact absurd (.self _) (plain id)
    next id =>
      split at accepted
      next => cases accepted
      next =>
        split at accepted
        next fields dict => exact finds_of_checkFields plain dict ih accepted
        next => cases accepted
    next => cases accepted

/-! ### Completeness -/

theorem checkFields_of_describes {read : Value → Checked Snapshot} {parent : Option Snapshot}
    {depth : Nat} (scope : DescribesScope heap fields level)
    (hparent : checkParent read fields = .ok parent) (hdepth : level.depth = depth)
    (hcount : depth = (parent.map (·.first.depth + 1)).getD 0)
    (hroot : level.isGlobal = parent.isNone) :
    ∃ bound, checkFields heap read fields =
      .ok ⟨⟨depth, level.isGlobal, bound⟩, (parent.map frames).getD [], parent.bind base⟩ := by
  obtain ⟨bound, hbound⟩ :=
    (checkEntries_isOk fun _ given => scope.plain given).mpr scope.entries
  refine ⟨bound, checkFields_eq_ok.mpr ⟨depth, level.isGlobal, bound, parent, ?_, ?_, hbound,
    hparent, checkShape_eq_ok.mpr ⟨hroot, hcount, rfl⟩⟩⟩
  · exact checkDepth_eq_ok.mpr (hdepth ▸ scope.depth)
  · exact checkRequired_eq_ok.mpr scope.isGlobal

theorem checkScope_of_dict {id : ContainerId} (dict : heap.dict? (.container id) = some fields)
    (hseen : id ∉ seen) :
    checkScope heap snapshots (room + 1) seen (.container id) =
      checkFields heap (checkScope heap snapshots room (id :: seen)) fields := by
  simp only [checkScope, List.contains_iff_mem, hseen, if_false, dict]

def Longer (heap : Heap) (seen : List ContainerId) (levels : List Level) : Prop :=
  ∀ id ∈ seen, ∃ others, DescribesChain heap (.container id) others ∧
    levels.length < others.length

/-- A dict is not among those that describe longer chains than it. -/
theorem Longer.not_mem {id : ContainerId} (longer : Longer heap seen levels)
    (described : DescribesChain heap (.container id) levels) : id ∉ seen := by
  intro hmem
  obtain ⟨others, hothers, hlt⟩ := longer id hmem
  rw [hothers.unique described] at hlt
  exact Nat.lt_irrefl _ hlt

/-- What encloses a scope describes a shorter chain than it. -/
theorem Longer.cons {id : ContainerId} (longer : Longer heap seen (level :: outer))
    (described : DescribesChain heap (.container id) (level :: outer)) :
    Longer heap (id :: seen) outer := by
  intro c hc
  rcases List.mem_cons.mp hc with rfl | hc
  · exact ⟨_, described, Nat.lt_succ_self _⟩
  · obtain ⟨others, hothers, hlt⟩ := longer c hc
    exact ⟨others, hothers, Nat.lt_of_succ_lt hlt⟩

/-- Data that describes a chain whose levels count down is accepted if there is room for them,
inside dicts that describe longer chains. -/
theorem checkScope_of_describes (described : DescribesChain heap v levels)
    (counted : Counted levels) (enough : levels.length ≤ room)
    (longer : Longer heap seen levels) :
    ∃ s, checkScope heap snapshots room seen v = .ok s ∧ s.HasLevels levels := by
  induction described generalizing room seen with
  | @last v fields level dict scope alone =>
    obtain ⟨room, rfl⟩ := Nat.exists_eq_add_of_le' enough
    obtain ⟨id, rfl, -⟩ := Heap.dict?_eq_some.mp dict
    have hseen := longer.not_mem (.last dict scope alone)
    obtain ⟨hdepth, hroot, -⟩ := counted
    have hparent : checkParent (checkScope heap snapshots room (id :: seen)) fields = .ok none :=
      checkParent_eq_none.mpr alone
    obtain ⟨bound, hfields⟩ := checkFields_of_describes scope hparent hdepth rfl hroot
    exact ⟨_, (checkScope_of_dict dict hseen).trans hfields, hasLevels_last _ rfl _ _⟩
  | @inside v p fields level outer dict scope hp given enclosing ih =>
    obtain ⟨room, rfl⟩ : ∃ n, room = n + 1 := Nat.exists_eq_succ_of_ne_zero (by
      rintro rfl
      cases enough)
    obtain ⟨id, rfl, -⟩ := Heap.dict?_eq_some.mp dict
    have hself : DescribesChain heap (.container id) (level :: outer) :=
      .inside dict scope hp given enclosing
    have hseen := longer.not_mem hself
    obtain ⟨hdepth, hroot, hcounted⟩ := counted
    obtain ⟨t, hread, hlevels⟩ :=
      ih hcounted (Nat.le_of_succ_le_succ enough) (longer.cons hself)
    have hparent := checkParent_eq_some.mpr ⟨p, t, hp, given, hread, rfl⟩
    have hlevels := hlevels.asParent p
    have hroot' : level.isGlobal = (some (asParent p t)).isNone := by
      rw [hroot]
      cases outer with
      | nil => cases hlevels.depth
      | cons => rfl
    obtain ⟨bound, hfields⟩ :=
      checkFields_of_describes scope hparent hdepth hlevels.depth.symm hroot'
    refine ⟨_, (checkScope_of_dict dict hseen).trans hfields, ?_⟩
    exact hlevels.cons hlevels.depth.symm _ _

end Snapshot
end ScopeChain
