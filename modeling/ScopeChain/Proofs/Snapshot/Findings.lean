/-
The findings about the fields of a scope.

The fields of a scope and of its variables are checked one after the other, and all findings are
kept.  So of two findings, the first is about the field that is checked first, where their places
part.  None of them is about the shape of a scope, and a check without findings succeeds.
-/
import ScopeChain.Proofs.Snapshot.Texted

namespace ScopeChain

def Issue.isShape : Issue → Bool
  | .globalMismatch | .depthMismatch .. => true
  | _ => false

def Issue.OfField (issue : Issue) : Prop := issue.isShape = false

/-! ## The order of findings -/

/-- Whether one place inside a value is checked before another: the fields of a scope and those of
a variable in their order, and the items of a list in theirs.  Different keys have no order. -/
def Place.Before : Place → Place → Prop
  | .field m, .field n =>
    [m, n].Sublist ["depth", "is_global", "variables", "parent"] ∨ [m, n].Sublist ["name", "meta"]
  | .index i, .index j => i < j
  | .key k, .key l => k.same l = false
  | _, _ => False

/-- Whether two places part, and the first is checked before the second where they do. -/
inductive Place.Precedes : List Place → List Place → Prop where
  | apart {a b : Place} {p q : List Place} (before : a.Before b) : Precedes (a :: p) (b :: q)
  | inside {a : Place} {p q : List Place} (further : Precedes p q) : Precedes (a :: p) (a :: q)

def Fault.Precedes (f g : Fault) : Prop := Place.Precedes f.place g.place

namespace Checked

variable {α β γ : Type} {a : Checked α} {b : Checked β} {c : Checked γ} {p q : Place}

theorem faults_inside (p : Place) (c : Checked α) :
    (c.inside p).faults = c.faults.map (Fault.inside p) := by
  cases c <;> rfl

def In (p : Place) (c : Checked α) : Prop := ∀ f ∈ c.faults, ∃ g, f = Fault.inside p g

theorem in_inside (p : Place) (c : Checked α) : (c.inside p).In p := by
  intro f hf
  rw [faults_inside] at hf
  obtain ⟨g, -, rfl⟩ := List.mem_map.mp hf
  exact ⟨g, rfl⟩

theorem In.precedes (first : a.In p) (second : b.In q) (before : p.Before q) :
    ∀ f ∈ a.faults, ∀ g ∈ b.faults, f.Precedes g := by
  intro f hf g hg
  obtain ⟨f, rfl⟩ := first f hf
  obtain ⟨g, rfl⟩ := second g hg
  exact .apart before

/-- Whether the findings of a check are in the order in which it is made, with issues of one kind,
and the check succeeds without findings. -/
structure Orderly (kind : Issue → Prop) (c : Checked α) : Prop where
  ordered : c.faults.Pairwise Fault.Precedes
  issues : ∀ f ∈ c.faults, kind f.issue
  succeeds : c.faults = [] → ∃ a, c = .ok a

variable {kind : Issue → Prop}

theorem orderly_ok (a : α) : Orderly kind (.ok a : Checked α) :=
  ⟨.nil, fun _ hf => absurd hf List.not_mem_nil, fun _ => ⟨a, rfl⟩⟩

theorem orderly_fail {issue : Issue} (h : kind issue) : Orderly kind (fail issue : Checked α) where
  ordered := List.pairwise_singleton _ _
  issues f hf := by rwa [List.mem_singleton.mp hf]
  succeeds h := absurd h (List.cons_ne_nil _ _)

theorem Orderly.imp {other : Issue → Prop} (orderly : c.Orderly kind)
    (h : ∀ issue, kind issue → other issue) : c.Orderly other :=
  ⟨orderly.ordered, fun f hf => h f.issue (orderly.issues f hf), orderly.succeeds⟩

theorem Orderly.inside (orderly : c.Orderly kind) : (c.inside p).Orderly kind where
  ordered := by
    rw [faults_inside]
    exact List.pairwise_map.mpr (orderly.ordered.imp .inside)
  issues f hf := by
    rw [faults_inside] at hf
    obtain ⟨g, hg, rfl⟩ := List.mem_map.mp hf
    exact orderly.issues g hg
  succeeds h := by
    rw [faults_inside, List.map_eq_nil_iff] at h
    obtain ⟨a, rfl⟩ := orderly.succeeds h
    exact ⟨a, rfl⟩

theorem faults_map (f : α → β) (c : Checked α) : faults (c.map f) = c.faults := by
  cases c <;> rfl

theorem Orderly.map (orderly : a.Orderly kind) (f : α → β) : Orderly kind (a.map f) where
  ordered := faults_map f a ▸ orderly.ordered
  issues := faults_map f a ▸ orderly.issues
  succeeds h := by
    obtain ⟨x, rfl⟩ := orderly.succeeds (faults_map f a ▸ h)
    exact ⟨f x, rfl⟩

theorem map_eq_ok {f : α → β} {y : β} : a.map f = .ok y ↔ ∃ x, a = .ok x ∧ f x = y := by
  cases a <;> simp [Except.map]

/-- A second check that is made of what the first gives. -/
theorem Orderly.bind (orderly : a.Orderly kind) {next : α → Checked β}
    (second : ∀ x, (next x).Orderly kind) : Orderly kind (a.bind next) := by
  cases a with
  | ok x => exact second x
  | error fs => exact ⟨orderly.ordered, orderly.issues, fun h => nomatch orderly.succeeds h⟩

def both (a : Checked α) (b : Checked β) : Checked (α × β) :=
  match a, b with
  | .ok x, .ok y => .ok (x, y)
  | a, b => .error (a.faults ++ b.faults)

theorem faults_both (a : Checked α) (b : Checked β) :
    (both a b).faults = a.faults ++ b.faults := by
  cases a <;> cases b <;> rfl

theorem both_eq_ok {x : α × β} : both a b = .ok x ↔ a = .ok x.1 ∧ b = .ok x.2 := by
  obtain ⟨y, z⟩ := x
  cases a <;> cases b <;> simp [both]

theorem Orderly.both (first : a.Orderly kind) (second : b.Orderly kind)
    (precede : ∀ f ∈ a.faults, ∀ g ∈ b.faults, f.Precedes g) : (a.both b).Orderly kind where
  ordered := by
    rw [faults_both]
    exact List.pairwise_append.mpr ⟨first.ordered, second.ordered, precede⟩
  issues f hf := by
    rw [faults_both] at hf
    exact (List.mem_append.mp hf).elim (first.issues f) (second.issues f)
  succeeds h := by
    rw [faults_both, List.append_eq_nil_iff] at h
    obtain ⟨x, rfl⟩ := first.succeeds h.1
    obtain ⟨y, rfl⟩ := second.succeeds h.2
    exact ⟨(x, y), rfl⟩

end Checked

/-! ## Readings -/

namespace Coerce

def OfField {α : Type} (r : Except Issue α) : Prop := ∀ e, r = .error e → e.OfField

theorem ofField_bytesText (bs : List UInt8) : OfField (bytesText bs) := by
  intro e h
  unfold bytesText at h
  split at h <;> cases h
  rfl

theorem ofField_text (v : Value) : OfField (text v) := by
  intro e h
  unfold text at h
  split at h
  · cases h
  · exact ofField_bytesText _ e h
  · cases h
    rfl

theorem ofField_keyText (k : Key) : OfField (keyText k) := by
  intro e h
  unfold keyText at h
  split at h
  · cases h
  · exact ofField_bytesText _ e h
  · cases h
    rfl

theorem ofField_integerOfText (s : String) : OfField (integerOfText s) := by
  intro e h
  unfold integerOfText at h
  split at h <;> cases h <;> rfl

theorem ofField_integerOfFloat (x : Binary64) : OfField (integerOfFloat x) := by
  intro e h
  unfold integerOfFloat at h
  split at h
  · cases h
    rfl
  · split at h
    · cases h
      rfl
    · split at h <;> cases h
      rfl

theorem ofField_integer (v : Value) : OfField (integer v) := by
  intro e h
  unfold integer at h
  split at h
  · cases h
  · cases h
  · exact ofField_integerOfFloat _ e h
  · exact ofField_integerOfText _ e h
  · split at h
    · exact ofField_integerOfText _ e h
    · cases h
      rfl
  · cases h
    rfl

theorem ofField_integerFrom (least : Int) (v : Value) : OfField (integerFrom least v) := by
  intro e h
  unfold integerFrom at h
  split at h
  · split at h <;> cases h
    rfl
  next hv =>
    cases h
    exact ofField_integer v _ hv

theorem ofField_booleanOfText (s : String) : OfField (booleanOfText s) := by
  intro e h
  simp only [booleanOfText] at h
  split at h
  · cases h
  · split at h <;> cases h
    rfl

theorem ofField_booleanOfInt (i : Int) : OfField (booleanOfInt i) := by
  intro e h
  unfold booleanOfInt at h
  split at h
  · cases h
  · split at h
    · cases h
    · split at h <;> cases h <;> rfl

theorem ofField_boolean (v : Value) : OfField (boolean v) := by
  intro e h
  unfold boolean at h
  split at h
  · cases h
  · exact ofField_booleanOfInt _ e h
  · split at h
    · exact ofField_booleanOfInt _ e h
    · cases h
      rfl
  · exact ofField_booleanOfText _ e h
  · split at h
    · exact ofField_booleanOfText _ e h
    · cases h
      rfl
  · cases h
    rfl

end Coerce

namespace Snapshot

open Checked

variable {heap : Heap} {fields : Metadata}

/-! ## Fields -/

theorem orderly_ofCoercion {α : Type} {r : Except Issue α} (field : Coerce.OfField r) :
    (ofCoercion r).Orderly Issue.OfField := by
  cases r with
  | ok a => exact orderly_ok a
  | error e => exact orderly_fail (field e rfl)

theorem orderly_checkRequired {α : Type} {read : Value → Except Issue α}
    (field : ∀ v, Coerce.OfField (read v)) (name : String) :
    (checkRequired read fields name).Orderly Issue.OfField := by
  refine Orderly.inside ?_
  split
  next => exact orderly_fail rfl
  next v _ => exact orderly_ofCoercion (field v)

theorem checkDepth_eq (fields : Metadata) : checkDepth fields =
    (checkRequired (Coerce.integerFrom 0) fields "depth").map Int.toNat := by
  rw [checkDepth]
  cases checkRequired (Coerce.integerFrom 0) fields "depth" <;> rfl

theorem orderly_checkDepth : (checkDepth fields).Orderly Issue.OfField := by
  rw [checkDepth_eq]
  exact (orderly_checkRequired (Coerce.ofField_integerFrom 0) "depth").map _

theorem in_checkDepth : (checkDepth fields).In (.field "depth") := by
  rw [checkDepth_eq, In, faults_map]
  exact in_inside _ _

/-! ## Variables -/

theorem checkKeys_cons (k : Key) (v : Value) (rest : Metadata) : checkKeys ((k, v) :: rest) =
    (both (inside (.key k) (ofCoercion (Coerce.keyText k))) (checkKeys rest)).map
      fun x => (.text x.1, v) :: x.2 := by
  rw [checkKeys]
  cases Coerce.keyText k <;> cases checkKeys rest <;> rfl

theorem orderly_checkKeys {m : Metadata} (distinct : KeysDistinct m) :
    (checkKeys m).Orderly Issue.OfField := by
  induction m with
  | nil => exact orderly_ok []
  | cons p rest ih =>
    obtain ⟨k, v⟩ := p
    obtain ⟨hk, hrest⟩ := List.pairwise_cons.mp distinct
    have hkey := orderly_ofCoercion (Coerce.ofField_keyText k)
    rw [checkKeys_cons]
    refine (hkey.inside.both (ih hrest) fun f hf g hg => ?_).map _
    obtain ⟨f, rfl⟩ := in_inside _ _ f hf
    obtain ⟨q, hq, -, hplace⟩ := unspelled_of_checkKeys hg
    rw [Fault.Precedes, hplace]
    exact .apart (hk q hq)

theorem checkMetadata_eq (m : Metadata) : checkMetadata m = (checkKeys m).map dictOf := by
  rw [checkMetadata]
  cases checkKeys m <;> rfl

theorem checkEntryFields_eq (heap : Heap) (fields : Metadata) : checkEntryFields heap fields =
    (both (checkRequired Coerce.text fields "name") (checkOptionalMetadata heap fields)).map
      fun x => ⟨x.1, (fieldOf fields "value").getD .null, x.2⟩ := by
  unfold checkEntryFields
  cases checkRequired Coerce.text fields "name" <;>
    cases checkOptionalMetadata heap fields <;> rfl

theorem checkEntriesFrom_cons (heap : Heap) (i : Nat) (v : Value) (rest : List Value) :
    checkEntriesFrom heap i (v :: rest) =
      (both (inside (.index i) (checkEntry heap v)) (checkEntriesFrom heap (i + 1) rest)).map
        fun x => x.1 :: x.2 := by
  rw [checkEntriesFrom]
  cases inside (.index i) (checkEntry heap v) <;>
    cases checkEntriesFrom heap (i + 1) rest <;> rfl

/-- What is found of variables from an index on is inside that index or a later one. -/
theorem index_of_checkEntriesFrom {i : Nat} {items : List Value} {f : Fault}
    (found : f ∈ (checkEntriesFrom heap i items).faults) :
    ∃ j g, i ≤ j ∧ f = Fault.inside (.index j) g := by
  induction items generalizing i with
  | nil => cases found
  | cons v rest ih =>
    rw [checkEntriesFrom_cons, faults_map, faults_both] at found
    rcases List.mem_append.mp found with found | found
    · obtain ⟨g, rfl⟩ := in_inside _ _ f found
      exact ⟨i, g, Nat.le_refl i, rfl⟩
    · obtain ⟨j, g, hj, rfl⟩ := ih found
      exact ⟨j, g, Nat.le_of_succ_le hj, rfl⟩

section Proper

variable (proper : heap.Proper)
include proper

theorem keysDistinct_of_dict {v : Value} (dict : heap.dict? v = some fields) :
    KeysDistinct fields := by
  obtain ⟨id, -, hid⟩ := Heap.dict?_eq_some.mp dict
  exact proper id fields hid

theorem orderly_checkOptionalMetadata :
    (checkOptionalMetadata heap fields).Orderly Issue.OfField := by
  refine Orderly.inside ?_
  split
  next => exact orderly_ok none
  next => exact orderly_ok none
  next =>
    split
    next => exact orderly_fail rfl
    next m dict =>
      have h := ((orderly_checkKeys (keysDistinct_of_dict proper dict)).map dictOf).map some
      rw [← checkMetadata_eq] at h
      cases hm : checkMetadata m with
      | ok checked => exact orderly_ok (some checked)
      | error fs =>
        rw [hm] at h
        exact h

theorem orderly_checkEntry (v : Value) : (checkEntry heap v).Orderly Issue.OfField := by
  rw [checkEntry]
  split
  next fields _ =>
    rw [checkEntryFields_eq]
    refine ((orderly_checkRequired Coerce.ofField_text "name").both
      (orderly_checkOptionalMetadata proper) ?_).map _
    exact In.precedes (in_inside _ _) (in_inside _ _) (Or.inr (by decide))
  next => exact orderly_fail rfl

theorem orderly_checkEntriesFrom (i : Nat) (items : List Value) :
    (checkEntriesFrom heap i items).Orderly Issue.OfField := by
  induction items generalizing i with
  | nil => exact orderly_ok []
  | cons v rest ih =>
    rw [checkEntriesFrom_cons]
    refine ((orderly_checkEntry proper v).inside.both (ih (i + 1)) fun f hf g hg => ?_).map _
    obtain ⟨f, rfl⟩ := in_inside _ _ f hf
    obtain ⟨j, g, hj, rfl⟩ := index_of_checkEntriesFrom hg
    exact .apart hj

theorem orderly_checkEntries : (checkEntries heap fields).Orderly Issue.OfField := by
  refine Orderly.inside ?_
  split
  next => exact orderly_ok []
  next =>
    split
    next items _ => exact orderly_checkEntriesFrom proper 0 items
    next => exact orderly_fail rfl

end Proper

/-! ## Scopes -/

def checkOwn (heap : Heap) (fields : Metadata) : Checked ((Nat × Bool) × List Entry) :=
  both (both (checkDepth fields) (checkRequired Coerce.boolean fields "is_global"))
    (checkEntries heap fields)

theorem precedes_parent {f : Fault} (found : f ∈ (checkOwn heap fields).faults) (g : Fault) :
    f.Precedes (g.inside (.field "parent")) := by
  rw [checkOwn, faults_both, faults_both, List.append_assoc] at found
  simp only [List.mem_append] at found
  rcases found with found | found | found
  · obtain ⟨f, rfl⟩ := in_checkDepth f found
    exact .apart (Or.inl (by decide))
  · obtain ⟨f, rfl⟩ := in_inside _ _ f found
    exact .apart (Or.inl (by decide))
  · obtain ⟨f, rfl⟩ := in_inside _ _ f found
    exact .apart (Or.inl (by decide))

theorem checkFields_eq (heap : Heap) (read : Value → Checked Snapshot) (fields : Metadata) :
    checkFields heap read fields = (both (checkOwn heap fields) (checkParent read fields)).bind
      fun x => checkShape x.1.1.1 x.1.1.2 x.1.2 x.2 := by
  unfold checkFields checkOwn
  cases checkDepth fields <;> cases checkRequired Coerce.boolean fields "is_global" <;>
    cases checkEntries heap fields <;> cases checkParent read fields <;> rfl

/-- The depth of a scope is checked before its flag, and its variables after both. -/
theorem orderly_checkOwn (proper : heap.Proper) :
    (checkOwn heap fields).Orderly Issue.OfField := by
  have hglobal : (checkRequired Coerce.boolean fields "is_global").In (.field "is_global") :=
    in_inside _ _
  have hentries : (checkEntries heap fields).In (.field "variables") := in_inside _ _
  refine (orderly_checkDepth.both (orderly_checkRequired Coerce.ofField_boolean "is_global")
    (in_checkDepth.precedes hglobal (Or.inl (by decide)))).both (orderly_checkEntries proper)
    fun f hf => ?_
  rw [faults_both] at hf
  rcases List.mem_append.mp hf with hf | hf
  · exact in_checkDepth.precedes hentries (Or.inl (by decide)) f hf
  · exact hglobal.precedes hentries (Or.inl (by decide)) f hf

end Snapshot
end ScopeChain
