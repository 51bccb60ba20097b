/-
What is captured of a chain.

A captured frame has the depth of its scope, is global if the scope is, and has the scope's
variables in their order.  It always fits the frames behind it.  Metadata is taken over as it is if its keys are texts and
distinct; keys that are bytes become texts, and of those that become equal the first place
and the last value are kept.
-/
import ScopeChain.Proofs.Listwise
import ScopeChain.Proofs.Scope.Chain
import ScopeChain.Proofs.Snapshot.Written
import ScopeChain.Proofs.Value.Distinct

namespace ScopeChain

def KeysText (entries : Metadata) : Prop := ∀ p ∈ entries, ∃ s, p.1 = .text s

def Entry.Plain (e : Entry) : Prop := ∀ m ∈ e.metadata, KeysText m ∧ KeysDistinct m

namespace Snapshot

/-! ## Metadata -/

theorem checkKeys_ok {metadata pairs : Metadata} (h : checkKeys metadata = .ok pairs) :
    KeysText pairs ∧ pairs.map Prod.snd = metadata.map Prod.snd := by
  induction metadata generalizing pairs with
  | nil =>
    cases h
    exact ⟨fun p hp => (List.not_mem_nil hp).elim, rfl⟩
  | cons p rest ih =>
    obtain ⟨k, v⟩ := p
    rw [checkKeys] at h
    split at h
    next s found hk hrest =>
      cases h
      obtain ⟨htexts, hvalues⟩ := ih hrest
      refine ⟨fun q hq => ?_, by rw [List.map_cons, List.map_cons, hvalues]⟩
      rcases List.mem_cons.mp hq with rfl | hq
      · exact ⟨s, rfl⟩
      · exact htexts q hq
    next => cases h
    next => cases h

theorem checkKeys_of_text {metadata : Metadata} (texts : KeysText metadata) :
    checkKeys metadata = .ok metadata := by
  induction metadata with
  | nil => rfl
  | cons p rest ih =>
    obtain ⟨k, v⟩ := p
    obtain ⟨s, rfl⟩ : ∃ s, k = .text s := texts (k, v) List.mem_cons_self
    rw [checkKeys, ih fun q hq => texts q (List.mem_cons_of_mem _ hq)]
    rfl

theorem checkMetadata_of_text {metadata : Metadata} (texts : KeysText metadata)
    (distinct : KeysDistinct metadata) : checkMetadata metadata = .ok metadata := by
  rw [checkMetadata, checkKeys_of_text texts]
  exact congrArg Except.ok (dictOf_of_distinct distinct)

theorem checkMetadata_ok {metadata checked : Metadata} (h : checkMetadata metadata = .ok checked) :
    KeysText checked ∧ KeysDistinct checked ∧ ∀ p ∈ checked, ∃ q ∈ metadata, q.2 = p.2 := by
  rw [checkMetadata] at h
  split at h
  next pairs hpairs =>
    have heq : dictOf pairs = checked := Except.ok.inj h
    obtain ⟨htexts, hvalues⟩ := checkKeys_ok hpairs
    subst heq
    refine ⟨fun p hp => ?_, keysDistinct_dictOf pairs, fun p hp => ?_⟩
    · obtain ⟨q, hq, hkey⟩ := (mem_dictOf hp).1
      rw [← hkey]
      exact htexts q hq
    · obtain ⟨q, hq, hvalue⟩ := (mem_dictOf hp).2
      have hmem : p.2 ∈ metadata.map Prod.snd := by
        rw [← hvalues, ← hvalue]
        exact List.mem_map_of_mem hq
      obtain ⟨r, hr, hrp⟩ := List.mem_map.mp hmem
      exact ⟨r, hr, hrp⟩
  next => cases h

/-! ## Variables -/

/-- What is captured of a variable: its name, its value, and metadata with distinct texts for
keys, whose values are among those of the variable. -/
theorem captureEntry_ok {e c : Entry} (h : captureEntry e = .ok c) :
    c.name = e.name ∧ c.value = e.value ∧ c.Plain ∧
      ∀ m ∈ c.metadata, ∃ n ∈ e.metadata, ∀ p ∈ m, ∃ q ∈ n, q.2 = p.2 := by
  rw [captureEntry] at h
  split at h
  next hnone =>
    cases h
    refine ⟨rfl, rfl, fun m hm => ?_, fun m hm => ?_⟩ <;>
      · rw [hnone] at hm
        cases hm
  next metadata hsome =>
    split at h
    next checked hchecked =>
      cases h
      obtain ⟨htexts, hdistinct, hvalues⟩ := checkMetadata_ok hchecked
      refine ⟨rfl, rfl, ?_, ?_⟩
      · rintro m ⟨⟩
        exact ⟨htexts, hdistinct⟩
      · rintro m ⟨⟩
        exact ⟨metadata, hsome, hvalues⟩
    next => cases h

theorem captureEntry_of_plain {e : Entry} (plain : e.Plain) : captureEntry e = .ok e := by
  obtain ⟨name, value, metadata⟩ := e
  cases metadata with
  | none => rfl
  | some m =>
    obtain ⟨htexts, hdistinct⟩ := plain m rfl
    rw [captureEntry]
    simp only [checkMetadata_of_text htexts hdistinct]

theorem captureEntries_eq_ok {es cs : List Entry} :
    captureEntries es = .ok cs ↔ List.Forall₂ (fun e c => captureEntry e = .ok c) es cs := by
  induction es generalizing cs with
  | nil =>
    rw [captureEntries]
    constructor
    · intro h
      cases h
      exact .nil
    · intro h
      cases h
      rfl
  | cons e rest ih =>
    constructor
    · intro h
      rw [captureEntries] at h
      split at h
      next => cases h
      next c hc =>
        split at h
        next ds hds =>
          cases h
          exact .cons hc (ih.mp hds)
        next => cases h
    · intro h
      cases h with
      | cons hc hrest => rw [captureEntries, hc, ih.mpr hrest]

theorem captureEntries_of_plain {es : List Entry} (plain : ∀ e ∈ es, e.Plain) :
    captureEntries es = .ok es := by
  refine captureEntries_eq_ok.mpr (List.forall₂_same.mpr fun e he => ?_)
  exact captureEntry_of_plain (plain e he)

theorem sorted_of_captureEntries {es cs : List Entry} (sorted : Entry.Sorted es)
    (h : captureEntries es = .ok cs) : Entry.Sorted cs := by
  have hnames : es.map Entry.name = cs.map Entry.name :=
    Listwise.map_eq (captureEntries_eq_ok.mp h) fun e _ c _ hc => (captureEntry_ok hc).1.symm
  rw [Entry.Sorted, ← List.pairwise_map (f := fun e : Entry => e.name) (R := (· < ·))] at sorted ⊢
  rw [← hnames]
  exact sorted

/-! ## Chains -/

theorem checkShape_eq_ok {depth : Nat} {isGlobal : Bool} {bound : List Entry}
    {parent : Option Snapshot} {s : Snapshot} :
    checkShape depth isGlobal bound parent = .ok s ↔
      isGlobal = parent.isNone ∧ depth = (parent.map (·.first.depth + 1)).getD 0 ∧
        s = ⟨⟨depth, isGlobal, bound⟩, (parent.map frames).getD [], parent.bind base⟩ := by
  generalize hexpected : (parent.map (·.first.depth + 1)).getD 0 = expected
  have hshape : checkShape depth isGlobal bound parent =
      if isGlobal ≠ parent.isNone then Checked.fail .globalMismatch
      else if depth ≠ expected then Checked.fail (.depthMismatch depth expected)
      else .ok ⟨⟨depth, isGlobal, bound⟩, (parent.map frames).getD [], parent.bind base⟩ := by
    rw [← hexpected]
    cases parent <;> rfl
  rw [hshape]
  by_cases hglobal : isGlobal = parent.isNone
  · rw [if_neg (not_not.mpr hglobal)]
    by_cases hdepth : depth = expected
    · rw [if_neg (not_not.mpr hdepth)]
      simp [hglobal, hdepth, eq_comm]
    · rw [if_pos hdepth]
      simp [Checked.fail, hdepth]
  · rw [if_pos hglobal]
    simp [Checked.fail, hglobal]

def IsCaptured (f : Forest) (c : ScopeId) (frame : Frame) : Prop :=
  captureEntries (f.locals c).entries = .ok frame.entries

section Chains
variable {f : Forest} {b p : ScopeId} {s : Snapshot}

theorem depth_of_capture (captured : capture f b = .ok s) : s.first.depth = f.depth b := by
  rw [capture] at captured
  split at captured
  next => cases captured
  next parent _ =>
    rw [captureFrame] at captured
    split at captured
    next =>
      obtain ⟨-, -, rfl⟩ := checkShape_eq_ok.mp captured
      rfl
    next => cases captured

theorem capture_of_global (h : f.parent? b = none) :
    capture f b = (captureEntries (f.locals b).entries).map fun entries =>
      ⟨⟨0, true, entries⟩, [], none⟩ := by
  have hglobal : f.isGlobal b = true := by rw [Forest.isGlobal, h]; rfl
  rw [capture, Forest.depth, Forest.enclosing_of_global h, captureChain]
  simp only [captureFrame, hglobal]
  cases captureEntries (f.locals b).entries <;> rfl

theorem capture_of_parent (h : f.parent? b = some p) :
    capture f b = (capture f p).bind fun t => (captureEntries (f.locals b).entries).map
      fun entries => ⟨⟨f.depth b, false, entries⟩, t.frames, t.base⟩ := by
  have hglobal : f.isGlobal b = false := by rw [Forest.isGlobal, h]; rfl
  have hchain : captureChain f (f.enclosing b) = (capture f p).map some := by
    rw [Forest.enclosing_of_parent h, Forest.chain_eq f p, captureChain, capture]
    cases captureChain f (f.enclosing p) <;> rfl
  rw [capture, hchain]
  cases hp : capture f p with
  | error fs => rfl
  | ok t =>
    show captureFrame f (f.depth b) b (some t) = Except.map _ _
    rw [captureFrame, hglobal]
    cases captureEntries (f.locals b).entries with
    | error fs => rfl
    | ok entries =>
      refine checkShape_eq_ok.mpr ⟨rfl, ?_, rfl⟩
      rw [Forest.depth_of_parent h, ← depth_of_capture hp]
      rfl

/-- A snapshot is captured exactly if its frames have the shape of a chain and each has what is
captured of its scope. -/
theorem capture_eq_ok :
    capture f b = .ok s ↔
      s.base = none ∧ Shaped s.frames ∧ List.Forall₂ (IsCaptured f) (f.chain b) s.frames := by
  induction b using Nat.strongRecOn generalizing s with
  | _ b ih =>
    obtain ⟨⟨depth, isGlobal, entries⟩, outer, base⟩ := s
    cases h : f.parent? b with
    | none =>
      rw [capture_of_global h, Forest.chain_of_global h]
      simp only [frames, List.forall₂_cons, List.forall₂_nil_left_iff, Shaped, IsCaptured]
      cases captureEntries (f.locals b).entries with
      | error fs => simp [Except.map]
      | ok found =>
        simp only [Except.map, Except.ok.injEq, Snapshot.mk.injEq, Frame.mk.injEq]
        constructor
        · rintro ⟨⟨rfl, rfl, rfl⟩, rfl, rfl⟩
          exact ⟨rfl, ⟨rfl, rfl, trivial⟩, rfl, rfl⟩
        · rintro ⟨rfl, ⟨rfl, rfl, -⟩, rfl, rfl⟩
          exact ⟨⟨rfl, rfl, rfl⟩, rfl, rfl⟩
    | some p =>
      have ih := fun {t} => ih p (Forest.lt_of_parent? h) (s := t)
      rw [capture_of_parent h, Forest.chain_of_parent h]
      constructor
      · intro captured
        cases hp : capture f p with
        | error fs => rw [hp] at captured; cases captured
        | ok t =>
          rw [hp] at captured
          obtain ⟨hbase, hshaped, hall⟩ := ih.mp hp
          cases hentries : captureEntries (f.locals b).entries with
          | error fs => rw [hentries] at captured; cases captured
          | ok found =>
            rw [hentries] at captured
            cases captured
            refine ⟨hbase, ⟨?_, rfl, hshaped⟩, .cons hentries hall⟩
            rw [Forest.depth, Forest.enclosing_of_parent h, hall.length_eq]
      · rintro ⟨hbase, ⟨hdepth, hglobal, hshaped⟩, hall⟩
        obtain rfl : base = none := hbase
        obtain rfl : depth = outer.length := hdepth
        obtain rfl : isGlobal = outer.isEmpty := hglobal
        obtain ⟨hentries, hrest⟩ := List.forall₂_cons.mp hall
        cases outer with
        | nil =>
          rw [Forest.chain_eq f p] at hrest
          cases hrest
        | cons first rest =>
          have hp : capture f p = .ok ⟨first, rest, none⟩ := ih.mpr ⟨rfl, hshaped, hrest⟩
          have hlength : f.depth b = (first :: rest).length := by
            rw [Forest.depth, Forest.enclosing_of_parent h, hrest.length_eq]
          have hfound : captureEntries (f.locals b).entries = .ok entries := hentries
          rw [hp, hfound, hlength]
          rfl

theorem capture_of_plain (plain : ∀ c ∈ f.chain b, ∀ e ∈ (f.locals c).entries, e.Plain) :
    ∃ s, capture f b = .ok s ∧
      List.Forall₂ (fun c frame => frame.entries = (f.locals c).entries) (f.chain b) s.frames := by
  induction b using Nat.strongRecOn with
  | _ b ih =>
    have hentries := captureEntries_of_plain (plain b (Forest.mem_chain_self f b))
    cases h : f.parent? b with
    | none =>
      rw [capture_of_global h, hentries, Forest.chain_of_global h]
      exact ⟨_, rfl, .cons rfl .nil⟩
    | some p =>
      rw [Forest.chain_of_parent h] at plain ⊢
      obtain ⟨t, hp, hall⟩ := ih p (Forest.lt_of_parent? h) fun c hc =>
        plain c (List.mem_cons_of_mem _ hc)
      rw [capture_of_parent h, hp, hentries]
      exact ⟨_, rfl, .cons rfl hall⟩

end Chains

end Snapshot
end ScopeChain
