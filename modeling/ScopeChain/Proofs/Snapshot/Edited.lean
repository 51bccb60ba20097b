/-
Data that says the same in another way.

A dict can have other keys than those that are read, its keys can be in any order, and a field can
be missing whose value is the default.  Dicts that differ in this way only are read alike, and so
are scopes all along a chain.  Where data is accepted, the variables of a scope can also be in any
order, if their names are distinct.
-/
import Mathlib.Data.List.Perm.Basic
import ScopeChain.Proofs.Session.Canonical
import ScopeChain.Proofs.Snapshot.Given
import ScopeChain.Proofs.Value.Equal

namespace ScopeChain

/-! ## Edited dicts -/

def Key.Unknown (names : List String) (k : Key) : Prop := ∀ name ∈ names, k ≠ .text name

/-- Whether two dicts have the same items but for ignored ones, in any order, with values that may
be edited. -/
inductive DictEdit (ignored : Key × Value → Prop) (edited : Key → Value → Value → Prop) :
    Metadata → Metadata → Prop where
  | intro {m m' extra extra' kept kept' : Metadata} (order : m.Perm (extra ++ kept))
    (order' : m'.Perm (extra' ++ kept')) (ignore : ∀ p ∈ extra, ignored p)
    (ignore' : ∀ p ∈ extra', ignored p)
    (edits : List.Forall₂ (fun p p' => p.1 = p'.1 ∧ edited p.1 p.2 p'.2) kept kept') :
    DictEdit ignored edited m m'

/-- What may be added to a variable or left out: unknown keys, and a value or metadata that are
null. -/
def VariableIgnores (p : Key × Value) : Prop :=
  p.1.Unknown ["name", "value", "meta"] ∨ (p.1 = .text "value" ∨ p.1 = .text "meta") ∧ p.2 = .null

/-- What may be added to a scope or left out: unknown keys, no variables and no parent. -/
def ScopeIgnores (heap : Heap) (p : Key × Value) : Prop :=
  p.1.Unknown ["depth", "is_global", "variables", "parent"] ∨
    (p.1 = .text "variables" ∧ heap.items? p.2 = some []) ∨ (p.1 = .text "parent" ∧ p.2 = .null)

inductive VariableEdit (heap : Heap) : Value → Value → Prop where
  | same (v : Value) : VariableEdit heap v v
  | dict {v v' : Value} {m m' : Metadata} (dict : heap.dict? v = some m)
    (dict' : heap.dict? v' = some m') (edit : DictEdit VariableIgnores (fun _ => Eq) m m') :
    VariableEdit heap v v'

inductive VariablesEdit (heap : Heap) : Value → Value → Prop where
  | same (v : Value) : VariablesEdit heap v v
  | items {v v' : Value} {vs vs' : List Value} (items : heap.items? v = some vs)
    (items' : heap.items? v' = some vs') (edits : List.Forall₂ (VariableEdit heap) vs vs') :
    VariablesEdit heap v v'

def NamedBy (heap : Heap) (v : Value) (name : String) : Prop :=
  ∃ fields, heap.dict? v = some fields ∧ FieldReads fields "name" Coerce.text name

/-- Whether variables are edited into others, and those of distinct names may also be put in
another order. -/
inductive VariablesShuffle (heap : Heap) : Value → Value → Prop where
  | edit {v v' : Value} (edit : VariablesEdit heap v v') : VariablesShuffle heap v v'
  | order {v v' : Value} {vs ws vs' : List Value} (items : heap.items? v = some vs)
    (items' : heap.items? v' = some vs') (order : vs.Perm ws)
    (edits : List.Forall₂ (VariableEdit heap) ws vs')
    (distinct : vs.Pairwise fun v w => ∀ name, NamedBy heap v name → ¬ NamedBy heap w name) :
    VariablesShuffle heap v v'

/-- How a field of a scope may be edited: not at all, the variables by `bound`, and the parent from
`p` to `p'`. -/
def ScopeFieldEdit (bound : Value → Value → Prop) (p p' : Value) (k : Key) (a b : Value) : Prop :=
  a = b ∨ (k = .text "variables" ∧ bound a b) ∨ (k = .text "parent" ∧ a = p ∧ b = p')

/-- Whether data is edited into other data: the dict of its scope, the variables of that by `bound`,
and its parent in the same way. -/
inductive ScopeEdit (heap : Heap) (bound : Value → Value → Prop) : Value → Value → Prop where
  | same (v : Value) : ScopeEdit heap bound v v
  | dict {v v' p p' : Value} {m m' : Metadata} (dict : heap.dict? v = some m)
    (dict' : heap.dict? v' = some m')
    (edit : DictEdit (ScopeIgnores heap) (ScopeFieldEdit bound p p') m m')
    (enclosing : ScopeEdit heap bound p p') : ScopeEdit heap bound v v'

/-! ## Fields of edited dicts -/

theorem fieldOf_eq_some {m : Metadata} (distinct : KeysDistinct m) {name : String} {v : Value} :
    fieldOf m name = some v ↔ (.text name, v) ∈ m := by
  constructor
  · intro h
    obtain ⟨⟨k, w⟩, hfound, rfl⟩ := Option.map_eq_some_iff.mp h
    have hsame := List.find?_some hfound
    have hk : k = .text name := Key.same_text_iff.mp hsame
    exact hk ▸ List.mem_of_find?_eq_some hfound
  · intro hmem
    cases hfound : m.find? fun e => e.1.same (.text name) with
    | none =>
      have hno := List.find?_eq_none.mp hfound _ hmem
      exact absurd (Key.same_text_iff.mpr rfl) hno
    | some e =>
      have hsame := List.find?_some hfound
      have he := distinct.eq_of_text (List.mem_of_find?_eq_some hfound) hmem
        (Key.same_text_iff.mp hsame) rfl
      rw [fieldOf, hfound, he]
      rfl

namespace DictEdit

variable {ignored : Key × Value → Prop} {edited : Key → Value → Value → Prop} {m m' : Metadata}

theorem fields (edit : DictEdit ignored edited m m') (distinct : KeysDistinct m)
    (distinct' : KeysDistinct m') (name : String) :
    (∃ v v', fieldOf m name = some v ∧ fieldOf m' name = some v' ∧ edited (.text name) v v') ∨
      ((∀ v, fieldOf m name = some v → ignored (.text name, v)) ∧
        ∀ v, fieldOf m' name = some v → ignored (.text name, v)) := by
  obtain ⟨order, order', ignore, ignore', edits⟩ := edit
  next extra extra' kept kept' =>
  by_cases hkept : ∃ v, (.text name, v) ∈ kept
  · obtain ⟨v, hv⟩ := hkept
    obtain ⟨⟨k, v'⟩, hv', hk, hedited⟩ := Listwise.exists_right edits hv
    cases hk
    exact Or.inl ⟨v, v', (fieldOf_eq_some distinct).mpr (order.mem_iff.mpr
      (List.mem_append_right _ hv)), (fieldOf_eq_some distinct').mpr (order'.mem_iff.mpr
      (List.mem_append_right _ hv')), hedited⟩
  · refine Or.inr ⟨fun v hv => ?_, fun v hv => ?_⟩
    · have hmem := order.mem_iff.mp ((fieldOf_eq_some distinct).mp hv)
      rcases List.mem_append.mp hmem with hextra | hv
      · exact ignore _ hextra
      · exact absurd ⟨v, hv⟩ hkept
    · have hmem := order'.mem_iff.mp ((fieldOf_eq_some distinct').mp hv)
      rcases List.mem_append.mp hmem with hextra | hv
      · exact ignore' _ hextra
      · obtain ⟨⟨k, u⟩, hu, hk, -⟩ := Listwise.exists_left edits hv
        cases hk
        exact absurd ⟨u, hu⟩ hkept

theorem field_eq (edit : DictEdit ignored edited m m') (distinct : KeysDistinct m)
    (distinct' : KeysDistinct m') (name : String) (plain : ∀ a b, edited (.text name) a b → a = b)
    (required : ∀ v, ¬ ignored (.text name, v)) : fieldOf m name = fieldOf m' name := by
  rcases edit.fields distinct distinct' name with ⟨v, v', hv, hv', hedited⟩ | ⟨hno, hno'⟩
  · rw [hv, hv', plain v v' hedited]
  · rw [Option.eq_none_iff_forall_ne_some.mpr fun v hv => required v (hno v hv),
      Option.eq_none_iff_forall_ne_some.mpr fun v hv => required v (hno' v hv)]

end DictEdit

theorem Nests.parent {heap : Heap} {v p : Value} {fields : Metadata} {n : Nat}
    (nests : Nests heap v n) (dict : heap.dict? v = some fields)
    (parent : fieldOf fields "parent" = some p) (given : p ≠ .null) :
    ∃ k, Nests heap p k ∧ n = k + 1 := by
  cases nests with
  | stray absent => cases absent.symm.trans dict
  | last dict' alone =>
    cases dict.symm.trans dict'
    exact absurd (alone p parent) given
  | inside dict' parent' _ inner =>
    cases dict.symm.trans dict'
    cases parent.symm.trans parent'
    exact ⟨_, inner, rfl⟩

namespace ScopeEdit

variable {heap : Heap} {bound : Value → Value → Prop} {v v' p p' : Value} {m m' : Metadata}
  {n : Nat}

theorem eq_null_iff (edit : ScopeEdit heap bound v v') : v = .null ↔ v' = .null := by
  cases edit with
  | same => rfl
  | dict dict dict' =>
    constructor
    · rintro rfl
      cases dict
    · rintro rfl
      cases dict'

theorem parent_cases (proper : heap.Proper) (dict : heap.dict? v = some m)
    (dict' : heap.dict? v' = some m')
    (edit : DictEdit (ScopeIgnores heap) (ScopeFieldEdit bound p p') m m')
    (enclosing : ScopeEdit heap bound p p') :
    ((∀ a, fieldOf m "parent" = some a → a = .null) ∧
        ∀ b, fieldOf m' "parent" = some b → b = .null) ∨
      ∃ a b, fieldOf m "parent" = some a ∧ a ≠ .null ∧ fieldOf m' "parent" = some b ∧ b ≠ .null ∧
        (a = b ∨ a = p ∧ b = p') := by
  have hnull : ∀ a, ScopeIgnores heap (.text "parent", a) → a = .null := by
    simp [ScopeIgnores, Key.Unknown]
  have hdistinct := Snapshot.keysDistinct_of_dict proper dict
  have hdistinct' := Snapshot.keysDistinct_of_dict proper dict'
  rcases edit.fields hdistinct hdistinct' "parent" with ⟨a, b, ha, hb, hedited⟩ | ⟨hno, hno'⟩
  · have hpair : a = b ∨ a = p ∧ b = p' := by simpa [ScopeFieldEdit] using hedited
    have hiff : a = .null ↔ b = .null := by
      rcases hpair with rfl | ⟨rfl, rfl⟩
      · rfl
      · exact enclosing.eq_null_iff
    by_cases given : a = .null
    · refine Or.inl ⟨fun c hc => ?_, fun c hc => ?_⟩
      · cases ha.symm.trans hc
        exact given
      · cases hb.symm.trans hc
        exact hiff.mp given
    · exact Or.inr ⟨a, b, ha, given, hb, mt hiff.mpr given, hpair⟩
  · exact Or.inl ⟨fun a ha => hnull a (hno a ha), fun b hb => hnull b (hno' b hb)⟩

theorem nests (proper : heap.Proper) (edit : ScopeEdit heap bound v v')
    (nests : Nests heap v n) : Nests heap v' n := by
  induction edit generalizing n with
  | same => exact nests
  | dict dict dict' edit enclosing ih =>
    rcases parent_cases proper dict dict' edit enclosing with
      ⟨alone, alone'⟩ | ⟨a, b, ha, given, hb, given', hpair⟩
    · cases nests.unique (.last dict alone)
      exact .last dict' alone'
    · obtain ⟨k, inner, rfl⟩ := nests.parent dict ha given
      refine .inside dict' hb given' ?_
      rcases hpair with rfl | ⟨rfl, rfl⟩
      · exact inner
      · exact ih inner

end ScopeEdit

/-! ## Shuffled variables -/

/-- Variables of distinct names bind the same in any order. -/
theorem Locals.ofEntries_perm {es es' : List Entry}
    (distinct : es.Pairwise fun e f => e.name ≠ f.name) (order : es.Perm es') : ofEntries es = ofEntries es' := by
  refine eq_of_find? fun name => ?_
  have hperm : (Entry.named name es).Perm (Entry.named name es') := order.filter _
  have hapart : (Entry.named name es).Pairwise fun e f => e.name ≠ f.name := distinct.filter _
  have hname : ∀ e ∈ Entry.named name es, e.name = name := fun e he => (Entry.mem_named.mp he).2
  have hsame : Entry.named name es = Entry.named name es' := by
    match hnamed : Entry.named name es with
    | [] => exact (List.nil_perm.mp (hnamed ▸ hperm)).symm
    | [e] => exact (List.singleton_perm.mp (hnamed ▸ hperm))
    | e :: f :: rest =>
      rw [hnamed] at hapart hname
      have hne := (List.pairwise_cons.mp hapart).1 f List.mem_cons_self
      exact absurd ((hname e List.mem_cons_self).trans (hname f (by simp)).symm) hne
  rw [find?_ofEntries, find?_ofEntries, Entry.last, Entry.last, hsame]

def Frame.Alike (frame frame' : Frame) : Prop :=
  frame.depth = frame'.depth ∧ Locals.ofEntries frame.entries = Locals.ofEntries frame'.entries

namespace Snapshot

open Checked

variable {heap : Heap} {snapshots : Array Snapshot} {fields fields' : Metadata} {v v' : Value}
  {n room : Nat} {bound : Value → Value → Prop}

/-! ## Edited variables -/

theorem checkRequired_congr {α : Type} {name : String}
    (same : fieldOf fields name = fieldOf fields' name) (check : Value → Except Issue α) :
    checkRequired check fields name = checkRequired check fields' name := by
  rw [checkRequired, checkRequired, same]

theorem checkOptionalMetadata_of_null (h : ∀ v, fieldOf fields "meta" = some v → v = .null) :
    checkOptionalMetadata heap fields = .ok none := by
  rw [checkOptionalMetadata]
  split
  next => rfl
  next => rfl
  next v hnull hv => exact absurd (h v hv) hnull

theorem getD_null {o : Option Value} (h : ∀ v, o = some v → v = .null) : o.getD .null = .null := by
  cases o with
  | none => rfl
  | some v => exact h v rfl

theorem checkEntry_of_edit (proper : heap.Proper) (edit : VariableEdit heap v v') :
    checkEntry heap v = checkEntry heap v' := by
  cases edit with
  | same => rfl
  | @dict _ fields fields' dict dict' edit =>
    have hdistinct := keysDistinct_of_dict proper dict
    have hdistinct' := keysDistinct_of_dict proper dict'
    have hname := edit.field_eq hdistinct hdistinct' "name" (fun _ _ => id)
      (by simp [VariableIgnores, Key.Unknown])
    have hmissing : ∀ name, name = "value" ∨ name = "meta" → ∀ v,
        VariableIgnores (.text name, v) → v = .null := by
      rintro name (rfl | rfl) <;> simp [VariableIgnores, Key.Unknown]
    have hvalue : (fieldOf fields "value").getD .null = (fieldOf fields' "value").getD .null := by
      rcases edit.fields hdistinct hdistinct' "value" with ⟨a, b, ha, hb, rfl⟩ | ⟨hno, hno'⟩
      · rw [ha, hb]
      · rw [getD_null fun v hv => hmissing "value" (Or.inl rfl) v (hno v hv),
          getD_null fun v hv => hmissing "value" (Or.inl rfl) v (hno' v hv)]
    have hmeta : checkOptionalMetadata heap fields = checkOptionalMetadata heap fields' := by
      rcases edit.fields hdistinct hdistinct' "meta" with ⟨a, b, ha, hb, rfl⟩ | ⟨hno, hno'⟩
      · rw [checkOptionalMetadata, checkOptionalMetadata, ha, hb]
      · rw [checkOptionalMetadata_of_null fun v hv => hmissing "meta" (Or.inr rfl) v (hno v hv),
          checkOptionalMetadata_of_null fun v hv => hmissing "meta" (Or.inr rfl) v (hno' v hv)]
    rw [checkEntry, checkEntry, dict, dict']
    simp only
    rw [checkEntryFields_eq, checkEntryFields_eq, checkRequired_congr hname, hvalue, hmeta]

theorem checkEntriesFrom_congr {items items' : List Value}
    (same : List.Forall₂ (fun v v' => checkEntry heap v = checkEntry heap v') items items')
    (i : Nat) : checkEntriesFrom heap i items = checkEntriesFrom heap i items' := by
  induction same generalizing i with
  | nil => rfl
  | cons hv _ ih => rw [checkEntriesFrom_cons, checkEntriesFrom_cons, hv, ih]

def readVariables (heap : Heap) : Option Value → Checked (List Entry)
  | none => .ok []
  | some v =>
    match listItems? heap v with
    | some items => checkEntriesFrom heap 0 items
    | none => fail .notList

theorem checkEntries_eq (heap : Heap) (fields : Metadata) : checkEntries heap fields =
    inside (.field "variables") (readVariables heap (fieldOf fields "variables")) := by
  rw [checkEntries]
  cases fieldOf fields "variables" <;> rfl

theorem readVariables_of_items {items : List Value} (found : heap.items? v = some items) :
    readVariables heap (some v) = checkEntriesFrom heap 0 items := by
  have hplain : ∀ id, v ≠ .snapshot id := by
    rintro id rfl
    cases found
  simp only [readVariables, listItems?_of_ne_snapshot hplain, found]

theorem readVariables_of_edit (proper : heap.Proper) (edit : VariablesEdit heap v v') :
    readVariables heap (some v) = readVariables heap (some v') := by
  cases edit with
  | same => rfl
  | items items items' edits =>
    rw [readVariables_of_items items, readVariables_of_items items']
    exact checkEntriesFrom_congr (edits.imp fun _ _ edit => checkEntry_of_edit proper edit) 0

theorem checkEntriesFrom_eq_ok {i : Nat} {items : List Value} {es : List Entry} :
    checkEntriesFrom heap i items = .ok es ↔
      List.Forall₂ (fun v e => checkEntry heap v = .ok e) items es := by
  induction items generalizing i es with
  | nil =>
    rw [List.forall₂_nil_left_iff]
    exact ⟨fun h => (Except.ok.inj h).symm, fun h => by rw [h]; rfl⟩
  | cons v rest ih =>
    rw [checkEntriesFrom_cons, map_eq_ok, List.forall₂_cons_left_iff]
    simp only [both_eq_ok, Checked.inside_eq_ok, ih, Prod.exists]
    constructor
    · rintro ⟨e, es', ⟨he, hes⟩, rfl⟩
      exact ⟨e, es', he, hes, rfl⟩
    · rintro ⟨e, es', he, hes, rfl⟩
      exact ⟨e, es', ⟨he, hes⟩, rfl⟩

theorem namedBy_of_checkEntry {e : Entry} (accepted : checkEntry heap v = .ok e) :
    NamedBy heap v e.name := by
  obtain ⟨fields, dict, hname, -⟩ := givesVariable_of_checkEntry accepted
  exact ⟨fields, dict, hname⟩

theorem distinct_of_checkEntries {items : List Value} {es : List Entry}
    (accepted : List.Forall₂ (fun v e => checkEntry heap v = .ok e) items es)
    (distinct : items.Pairwise fun v w => ∀ name, NamedBy heap v name → ¬ NamedBy heap w name) :
    es.Pairwise fun e f => e.name ≠ f.name := by
  induction accepted with
  | nil => exact .nil
  | @cons v e rest es hv hrest ih =>
    obtain ⟨hfirst, hdistinct⟩ := List.pairwise_cons.mp distinct
    refine List.pairwise_cons.mpr ⟨fun f hf hsame => ?_, ih hdistinct⟩
    obtain ⟨w, hw, hf⟩ := Listwise.exists_left hrest hf
    refine hfirst w hw e.name (namedBy_of_checkEntry hv) ?_
    rw [hsame]
    exact namedBy_of_checkEntry hf

theorem readVariables_of_shuffle (proper : heap.Proper) (shuffle : VariablesShuffle heap v v')
    {es : List Entry} (accepted : readVariables heap (some v) = .ok es) :
    ∃ es', readVariables heap (some v') = .ok es' ∧
      Locals.ofEntries es = Locals.ofEntries es' := by
  cases shuffle with
  | edit edit => exact ⟨es, (readVariables_of_edit proper edit).symm.trans accepted, rfl⟩
  | order items items' order edits distinct =>
    rw [readVariables_of_items items, checkEntriesFrom_eq_ok] at accepted
    obtain ⟨es', hread, hperm⟩ := List.perm_comp_forall₂ order.symm accepted
    refine ⟨es', ?_, Locals.ofEntries_perm (distinct_of_checkEntries accepted distinct) hperm.symm⟩
    rw [readVariables_of_items items', checkEntriesFrom_eq_ok]
    refine Listwise.comp edits.flip hread fun v _ w _ e _ hvw he => ?_
    exact (checkEntry_of_edit proper hvw).symm.trans he

/-! ## Edited scopes -/

section Scopes

variable {p p' : Value}

theorem checkOwn_of_edit (proper : heap.Proper) (dict : heap.dict? v = some fields)
    (dict' : heap.dict? v' = some fields')
    (edit : DictEdit (ScopeIgnores heap) (ScopeFieldEdit bound p p') fields fields') :
    checkDepth fields = checkDepth fields' ∧
      checkRequired Coerce.boolean fields "is_global" =
        checkRequired Coerce.boolean fields' "is_global" ∧
      ((∃ a b, fieldOf fields "variables" = some a ∧ fieldOf fields' "variables" = some b ∧
          (a = b ∨ bound a b)) ∨
        (readVariables heap (fieldOf fields "variables") = .ok [] ∧
          readVariables heap (fieldOf fields' "variables") = .ok [])) := by
  have hdistinct := keysDistinct_of_dict proper dict
  have hdistinct' := keysDistinct_of_dict proper dict'
  have hdepth := edit.field_eq hdistinct hdistinct' "depth" (by simp [ScopeFieldEdit])
    (by simp [ScopeIgnores, Key.Unknown])
  have hglobal := edit.field_eq hdistinct hdistinct' "is_global" (by simp [ScopeFieldEdit])
    (by simp [ScopeIgnores, Key.Unknown])
  refine ⟨?_, checkRequired_congr hglobal _, ?_⟩
  · rw [checkDepth_eq, checkDepth_eq, checkRequired_congr hdepth]
  · have hempty : ∀ o : Option Value,
        (∀ v, o = some v → ScopeIgnores heap (.text "variables", v)) →
          readVariables heap o = .ok [] := by
      intro o h
      cases o with
      | none => rfl
      | some v =>
        have hnone : heap.items? v = some [] := by
          simpa [ScopeIgnores, Key.Unknown] using h v rfl
        exact readVariables_of_items hnone
    rcases edit.fields hdistinct hdistinct' "variables" with ⟨a, b, ha, hb, hedited⟩ | ⟨hno, hno'⟩
    · exact Or.inl ⟨a, b, ha, hb, by simpa [ScopeFieldEdit] using hedited⟩
    · exact Or.inr ⟨hempty _ hno, hempty _ hno'⟩

theorem checkParent_of_given {read : Value → Checked Snapshot}
    (parent : fieldOf fields "parent" = some p) (given : p ≠ .null) :
    checkParent read fields =
      inside (.field "parent") ((read p).map fun t => some (asParent p t)) := by
  rw [checkParent]
  split
  next hnone => cases hnone.symm.trans parent
  next hnull => exact absurd (Option.some.inj (parent.symm.trans hnull)) given
  next q _ hq =>
    cases parent.symm.trans hq
    cases read p <;> rfl

theorem asParent_of_edit (edit : ScopeEdit heap bound p p') (t : Snapshot) :
    asParent p t = asParent p' t := by
  cases edit with
  | same => rfl
  | dict dict dict' =>
    obtain ⟨id, rfl, -⟩ := Heap.dict?_eq_some.mp dict
    obtain ⟨id', rfl, -⟩ := Heap.dict?_eq_some.mp dict'
    rfl

/-- Edited data is read alike, if it nests finitely many scopes. -/
theorem checkScope_of_edit (proper : heap.Proper)
    (edit : ScopeEdit heap (VariablesEdit heap) v v') (nests : Nests heap v n) :
    checkScope heap snapshots room [] v = checkScope heap snapshots room [] v' := by
  induction edit generalizing n room with
  | same => rfl
  | @dict v v' p p' m m' dict dict' edit enclosing ih =>
    have nests' := (ScopeEdit.dict dict dict' edit enclosing).nests proper nests
    cases room with
    | zero =>
      obtain ⟨id, rfl, -⟩ := Heap.dict?_eq_some.mp dict
      obtain ⟨id', rfl, -⟩ := Heap.dict?_eq_some.mp dict'
      rfl
    | succ room =>
      obtain ⟨hdepth, hglobal, hvariables⟩ := checkOwn_of_edit proper dict dict' edit
      have hbound : readVariables heap (fieldOf m "variables") =
          readVariables heap (fieldOf m' "variables") := by
        rcases hvariables with ⟨a, b, ha, hb, rfl | hab⟩ | ⟨hnone, hnone'⟩
        · rw [ha, hb]
        · rw [ha, hb, readVariables_of_edit proper hab]
        · rw [hnone, hnone']
      have hown : checkOwn heap m = checkOwn heap m' := by
        rw [checkOwn, checkOwn, hdepth, hglobal, checkEntries_eq, checkEntries_eq, hbound]
      have hparent : checkParent (checkScope heap snapshots room []) m =
          checkParent (checkScope heap snapshots room []) m' := by
        rcases ScopeEdit.parent_cases proper dict dict' edit enclosing with
          ⟨alone, alone'⟩ | ⟨a, b, ha, given, hb, given', rfl | ⟨rfl, rfl⟩⟩
        · rw [checkParent_eq_none.mpr alone, checkParent_eq_none.mpr alone']
        · rw [checkParent_of_given ha given, checkParent_of_given hb given']
        · obtain ⟨k, inner, -⟩ := nests.parent dict ha given
          rw [checkParent_of_given ha given, checkParent_of_given hb given', ih inner,
            funext (asParent_of_edit enclosing)]
      rw [checkScope_of_nests nests dict, checkScope_of_nests nests' dict', checkFields_eq,
        checkFields_eq, hown, hparent]

def ParentsAlike (parent parent' : Option Snapshot) : Prop :=
  List.Forall₂ Frame.Alike ((parent.map frames).getD []) ((parent'.map frames).getD [])

theorem ParentsAlike.isNone {parent parent' : Option Snapshot}
    (alike : ParentsAlike parent parent') : parent.isNone = parent'.isNone := by
  cases parent <;> cases parent' <;> first | rfl | cases alike

theorem ParentsAlike.count {parent parent' : Option Snapshot}
    (alike : ParentsAlike parent parent') :
    (parent.map (·.first.depth + 1)).getD 0 = (parent'.map (·.first.depth + 1)).getD 0 := by
  cases parent with
  | none => cases parent' with
    | none => rfl
    | some t => cases alike
  | some s => cases parent' with
    | none => cases alike
    | some t =>
      obtain ⟨hdepth, -⟩ := (List.forall₂_cons.mp alike).1
      exact congrArg (· + 1) hdepth

theorem checkParent_of_alike {read : Value → Checked Snapshot} {a b : Value}
    (parent : fieldOf fields "parent" = some a) (given : a ≠ .null)
    (parent' : fieldOf fields' "parent" = some b) (given' : b ≠ .null)
    (inside : ∀ {t}, read a = .ok t →
      ∃ t', read b = .ok t' ∧ List.Forall₂ Frame.Alike t.frames t'.frames)
    {outer : Option Snapshot} (accepted : checkParent read fields = .ok outer) :
    ∃ outer', checkParent read fields' = .ok outer' ∧ ParentsAlike outer outer' := by
  rw [checkParent_of_given parent given, Checked.inside_eq_ok, map_eq_ok] at accepted
  obtain ⟨t, hread, rfl⟩ := accepted
  obtain ⟨t', hread', halike⟩ := inside hread
  refine ⟨some (asParent b t'), ?_, ?_⟩
  · rw [checkParent_of_given parent' given', hread']
    rfl
  · show List.Forall₂ _ (asParent a t).frames (asParent b t').frames
    rwa [frames_asParent, frames_asParent]

theorem checkEntries_of_shuffle (proper : heap.Proper)
    (shuffled : (∃ a b, fieldOf fields "variables" = some a ∧
        fieldOf fields' "variables" = some b ∧ (a = b ∨ VariablesShuffle heap a b)) ∨
      (readVariables heap (fieldOf fields "variables") = .ok [] ∧
        readVariables heap (fieldOf fields' "variables") = .ok []))
    {es : List Entry} (accepted : checkEntries heap fields = .ok es) :
    ∃ es', checkEntries heap fields' = .ok es' ∧
      Locals.ofEntries es = Locals.ofEntries es' := by
  rw [checkEntries_eq, Checked.inside_eq_ok] at accepted
  simp only [checkEntries_eq, Checked.inside_eq_ok]
  rcases shuffled with ⟨a, b, ha, hb, rfl | hab⟩ | ⟨hnone, hnone'⟩
  · exact ⟨es, by rw [hb, ← ha, accepted], rfl⟩
  · rw [ha] at accepted
    rw [hb]
    exact readVariables_of_shuffle proper hab accepted
  · exact ⟨es, by rw [hnone', ← hnone, accepted], rfl⟩

/-- Data that is accepted and then shuffled is read as a chain that binds the same. -/
theorem checkScope_of_shuffle (proper : heap.Proper)
    (edit : ScopeEdit heap (VariablesShuffle heap) v v') (nests : Nests heap v n) {s : Snapshot}
    (accepted : checkScope heap snapshots room [] v = .ok s) :
    ∃ s', checkScope heap snapshots room [] v' = .ok s' ∧
      List.Forall₂ Frame.Alike s.frames s'.frames := by
  induction edit generalizing n room s with
  | same => exact ⟨s, accepted, List.forall₂_same.mpr fun _ _ => ⟨rfl, rfl⟩⟩
  | @dict v v' p p' m m' dict dict' edit enclosing ih =>
    have nests' := (ScopeEdit.dict dict dict' edit enclosing).nests proper nests
    cases room with
    | zero =>
      obtain ⟨id, rfl, -⟩ := Heap.dict?_eq_some.mp dict
      cases accepted
    | succ room =>
      rw [checkScope_of_nests nests dict] at accepted
      obtain ⟨depth, isGlobal, bound, parent, hdepth, hglobal, hbound, hparent, hshape⟩ :=
        checkFields_eq_ok.mp accepted
      obtain ⟨hroot, hcount, rfl⟩ := checkShape_eq_ok.mp hshape
      obtain ⟨hdepth', hglobal', hvariables⟩ := checkOwn_of_edit proper dict dict' edit
      obtain ⟨bound', hbound', hlocals⟩ := checkEntries_of_shuffle proper hvariables hbound
      obtain ⟨parent', hparent', halike⟩ : ∃ parent',
          checkParent (checkScope heap snapshots room []) m' = .ok parent' ∧
            ParentsAlike parent parent' := by
        rcases ScopeEdit.parent_cases proper dict dict' edit enclosing with
          ⟨alone, alone'⟩ | ⟨a, b, ha, given, hb, given', hpair⟩
        · rw [checkParent_eq_none.mpr alone] at hparent
          cases hparent
          exact ⟨none, checkParent_eq_none.mpr alone', .nil⟩
        · refine checkParent_of_alike ha given hb given' (fun hread => ?_) hparent
          obtain ⟨k, inner, -⟩ := nests.parent dict ha given
          rcases hpair with rfl | ⟨rfl, rfl⟩
          · exact ⟨_, hread, List.forall₂_same.mpr fun _ _ => ⟨rfl, rfl⟩⟩
          · exact ih inner hread
      refine ⟨⟨⟨depth, isGlobal, bound'⟩, (parent'.map frames).getD [], parent'.bind base⟩, ?_,
        .cons ⟨rfl, hlocals⟩ halike⟩
      rw [checkScope_of_nests nests' dict', checkFields_eq_ok]
      exact ⟨depth, isGlobal, bound', parent', hdepth' ▸ hdepth, hglobal' ▸ hglobal, hbound',
        hparent', checkShape_eq_ok.mpr
          ⟨hroot.trans halike.isNone, hcount.trans halike.count, rfl⟩⟩

end Scopes

end Snapshot
end ScopeChain
