/-
The depth of a chain that has a text.

A chain is captured at every depth that the configuration allows.  Its text has as many levels as a
tree may have, whatever the configuration says.  So a chain of scalars is serialized exactly if its
scopes fit on these levels and no integer is too long, and the chain that is made of the text is as
deep and has the same variables.
-/
import ScopeChain.Proofs.Session.Accepted
import ScopeChain.Proofs.Session.Lasting
import ScopeChain.Proofs.Session.Sharing
import ScopeChain.Proofs.Snapshot.Scalars

namespace ScopeChain

open Snapshot (levelLimit Refusal)
open Written (FitsChain)

namespace Session

variable {s : Session} {b : ScopeId} {c : Config} {wss : List (List Written)}

def hasLongInteger (s : Session) (b : ScopeId) : Bool :=
  (s.bindings b).any fun es => es.any fun e => e.value.isLongInteger

/-- Why a chain of scalars has no text, if it has none. -/
def refusal? (s : Session) (b : ScopeId) : Option Refusal :=
  if levelLimit < Snapshot.levels (s.bindings b) then some .deep
  else if s.hasLongInteger b then some .longInteger
  else none

def BareChain (s : Session) (b : ScopeId) (wss : List (List Written)) : Prop :=
  List.Forall₂ (List.Forall₂ Entry.Bare) (s.bindings b) wss

theorem exists_bareChain (bare : ∀ es ∈ s.bindings b, ∀ e ∈ es, ∃ w, e.Bare w) :
    ∃ wss, s.BareChain b wss :=
  Listwise.exists_partners fun es hes => Listwise.exists_partners (bare es hes)

namespace BareChain

theorem spells (bare : s.BareChain b wss) : s.SpellsChain b wss :=
  List.forall₂_map_left_iff.mp (bare.imp fun _ _ hes => hes.imp fun _ _ he => he.spells s.heap)

theorem sound (bare : s.BareChain b wss) : ∀ ws ∈ wss, ∀ w ∈ ws, w.Sound := by
  intro ws hws w hw
  obtain ⟨es, -, hes⟩ := Listwise.exists_left bare hws
  obtain ⟨e, -, he⟩ := Listwise.exists_left hes hw
  exact he.sound

theorem length_eq (bare : s.BareChain b wss) : wss.length = s.forest.depth b + 1 := by
  rw [← List.Forall₂.length_eq bare, length_bindings]

theorem captured (bare : s.BareChain b wss) :
    ∃ snapshot, Snapshot.capture s.forest b = .ok snapshot ∧ List.Forall₂
      (fun frame ws => List.Forall₂ Entry.Bare frame.entries ws) snapshot.frames wss := by
  obtain ⟨snapshot, hsnapshot, hentries⟩ := Snapshot.capture_of_plain fun d hd e he => by
    obtain ⟨ws, -, hes⟩ := Listwise.exists_right bare (List.mem_map_of_mem hd)
    obtain ⟨w, -, hew⟩ := Listwise.exists_right hes he
    exact hew.plain
  refine ⟨snapshot, hsnapshot, ?_⟩
  exact Listwise.comp hentries.flip (List.forall₂_map_left_iff.mp bare)
    fun frame _ d _ ws _ heq hes => (heq : frame.entries = _) ▸ hes

/-- What is written of a chain of scalars that fits can be read back. -/
theorem readable (bare : s.BareChain b wss) (fits : FitsChain levelLimit wss)
    (short : s.hasLongInteger b = false) : Written.Readable wss where
  some := by
    rintro rfl
    exact s.bindings_ne_nil b (List.forall₂_nil_right_iff.mp bare)
  sound := bare.sound
  sorted ws hws := by
    obtain ⟨es, hes, hall⟩ := Listwise.exists_left bare hws
    exact (Entry.sorted_iff_of_names (Listwise.map_eq hall fun _ _ _ _ h => (h.spells s.heap).1)).mp
      (sorted_bindings es hes)
  fits := fits
  short := (Snapshot.hasLongInteger_chainTree bare (Written.length_le_of_fits fits)).trans short

/-- What is answered where a chain of scalars has no text. -/
theorem refused (bare : s.BareChain b wss) (known : s.configuration = .ok c)
    (present : b < s.forest.size) (shallow : s.forest.depth b ≤ c.maxSnapshotDepth) {r : Refusal}
    (refused : s.refusal? b = some r) :
    (s.step (.snapshot (.serialize b))).2.answer = .error (.snapshot (.unwritable r)) := by
  obtain ⟨snapshot, hsnapshot, hframes⟩ := bare.captured
  have htree : s.write snapshot = .error r := by
    rw [refusal?] at refused
    split at refused
    next hdeep =>
      cases refused
      rw [write, Snapshot.toTree, Snapshot.framesTree_deep s.heap s.snapshots hframes
        (mt (Snapshot.fitsChain_iff bare).mp (Nat.not_le.mpr hdeep))]
    next hfits =>
      have hfits := (Snapshot.fitsChain_iff bare).mpr (Nat.le_of_not_lt hfits)
      have hlong := Snapshot.hasLongInteger_chainTree bare (Written.length_le_of_fits hfits)
      obtain ⟨-, hshaped, -⟩ := Snapshot.capture_eq_ok.mp hsnapshot
      have hspelled : List.Forall₂ (fun frame ws => List.Forall₂ (Entry.Spells s.heap) frame.entries
          ws) snapshot.frames wss :=
        hframes.imp fun _ _ hes => hes.imp fun _ _ he => he.spells s.heap
      have hwritten := Snapshot.isWrittenChain_of_spells s.snapshots hspelled bare.sound hfits
      split at refused
      next hinteger =>
        cases refused
        rw [write, Snapshot.toTree, (Snapshot.framesTree_eq_ok hshaped).mpr ⟨wss, hwritten, rfl⟩]
        simp only [hlong.trans hinteger, if_true]
      next => cases refused
  rw [serialize_of_captured known present shallow hsnapshot, htree]

end BareChain

/-- A chain of as many scopes that holds, level by level, the same variables. -/
structure SameChain (s : Session) (b : ScopeId) (t : Session) (b' : ScopeId) : Prop where
  depth : t.ask (.depth b') = s.ask (.depth b)
  items : List.Forall₂ (fun d d' => t.ask (.localItems d') = s.ask (.localItems d))
    (s.forest.chain b) (t.forest.chain b')

theorem BareChain.same {t : Session} {b' : ScopeId} (bare : s.BareChain b wss)
    (present : b < s.forest.size) (present' : b' < t.forest.size) (spelled : t.SpellsChain b' wss) :
    s.SameChain b t b' where
  depth := by
    have hlength := List.Forall₂.length_eq spelled
    rw [Forest.length_chain, bare.length_eq, Nat.succ_inj] at hlength
    rw [ask_depth present, ask_depth present', hlength]
  items := by
    refine Listwise.comp (List.forall₂_map_left_iff.mp bare) (List.Forall₂.flip spelled)
      fun d hd ws _ d' hd' hes hes' => ?_
    have heq := Listwise.eq_of_both (f := fun e => e) (List.Forall₂.flip hes')
      (List.Forall₂.flip hes) fun w _ e' _ e _ he' he => Entry.Bare.eq_of_spells he he'
    rw [List.map_id'] at heq
    rw [ask_localItems (Nat.lt_of_le_of_lt (Forest.le_of_mem_chain hd) present),
      ask_localItems (Nat.lt_of_le_of_lt (Forest.le_of_mem_chain hd') present'), heq]

/-- A chain of scalars without metadata is captured at every depth that the configuration allows.
It is serialized, if its scopes and the variables of the outermost fit on the levels of a tree and
no integer is too long.  Then its text is read, in every session of the same configuration, as a
chain of the same depth with the same variables at each level. -/
theorem serialize_scalars (known : s.configuration = .ok c) (present : b < s.forest.size)
    (shallow : s.forest.depth b ≤ c.maxSnapshotDepth)
    (bare : ∀ es ∈ s.bindings b, ∀ e ∈ es, ∃ w, e.Bare w) :
    (∃ id, (s.step (.snapshot (.capture b))).2.answer = .ok (.snapshot id)) ∧
    match s.refusal? b with
    | some r => (s.step (.snapshot (.serialize b))).2.answer = .error (.snapshot (.unwritable r))
    | none => ∃ text, (s.step (.snapshot (.serialize b))).2.answer = .ok (.text text) ∧
        ∀ s' : Session, s'.configuration = .ok c →
          ∃ t b', s'.step (.snapshot (.deserialize text)) =
              (t, ⟨.ok (.scope b'), [.restored (s.forest.depth b + 1)]⟩) ∧
            s.SameChain b t b' := by
  obtain ⟨wss, hbare⟩ := exists_bareChain bare
  obtain ⟨snapshot, hsnapshot, -⟩ := hbare.captured
  refine ⟨⟨_, by rw [capture_of_ok known present shallow hsnapshot]⟩, ?_⟩
  split
  next r hr => exact hbare.refused known present shallow hr
  next hnone =>
    have hwritten : Snapshot.levels (s.bindings b) ≤ levelLimit ∧ s.hasLongInteger b = false := by
      rw [refusal?] at hnone
      split at hnone
      next => cases hnone
      next hfits =>
        split at hnone
        next => cases hnone
        next hshort => exact ⟨Nat.le_of_not_lt hfits, Bool.eq_false_iff.mpr hshort⟩
    have hreadable := hbare.readable ((Snapshot.fitsChain_iff hbare).mpr hwritten.1) hwritten.2
    refine ⟨_, serialize_of_spells present known hreadable ?_ hbare.spells, fun s' hknown => ?_⟩
    · rw [hbare.length_eq]
      exact Nat.succ_le_succ shallow
    · obtain ⟨b', t, hstep, hpresent, -, hspelled⟩ := deserialize_readable hknown hreadable
      rw [hbare.length_eq] at hstep
      exact ⟨t, b', hstep, hbare.same present hpresent hspelled⟩

def scalars : Session := (start ⟨[], none⟩).afterAll [
  .op (.scope (.create none)), .op (.scope (.set 0 "x" (.int 1) none)),
  .op (.scope (.child 0)), .op (.scope (.set 1 "y" (.text "\n") none))]

theorem bindings_scalars :
    scalars.bindings 1 = [[⟨"y", .text "\n", none⟩], [⟨"x", .int 1, none⟩]] := by
  rw [bindings, show scalars.forest.chain 1 = [1, 0] by decide +kernel]
  rfl

/-- Its text is read as a chain of two scopes with the same variables. -/
theorem scalars_serialize :
    ∃ text t b', (scalars.step (.snapshot (.serialize 1))).2.answer = .ok (.text text) ∧
      scalars.step (.snapshot (.deserialize text)) = (t, ⟨.ok (.scope b'), [.restored 2]⟩) ∧
      scalars.SameChain 1 t b' := by
  have hdepth : scalars.forest.depth 1 = 1 := by decide +kernel
  have hbare : ∀ es ∈ scalars.bindings 1, ∀ e ∈ es, ∃ w, e.Bare w := by
    rw [bindings_scalars]
    intro es hes e he
    rcases List.mem_pair.mp hes with rfl | rfl
    · rw [List.mem_singleton.mp he]
      exact ⟨_, .intro "y" (.text "\n")⟩
    · rw [List.mem_singleton.mp he]
      exact ⟨_, .intro "x" (.int 1)⟩
  obtain ⟨-, hserialize⟩ := serialize_scalars (s := scalars) (b := 1) rfl (by decide +kernel)
    (by rw [hdepth]; decide +kernel) hbare
  rw [refusal?, hasLongInteger, bindings_scalars, if_neg (by decide),
    if_neg (by decide)] at hserialize
  obtain ⟨text, htext, hread⟩ := hserialize
  obtain ⟨t, b', hstep, hsame⟩ := hread scalars rfl
  rw [hdepth] at hstep
  exact ⟨text, t, b', htext, hstep, hsame⟩

/-! ## Scopes inside each other -/

theorem bindings_addScope (present : b < s.forest.size) :
    (s.addScope (some b)).2.bindings s.forest.size = [] :: s.bindings b := by
  have hparent : (s.forest.add (some b)).2.parent? s.forest.size = some b :=
    (Forest.parent?_add present _).trans (if_pos rfl)
  have hchain : (s.forest.add (some b)).2.chain b = s.forest.chain b :=
    (Forest.Extends.add s.forest (some b)).chain present
  show ((s.forest.add (some b)).2.chain s.forest.size).map
    (fun d => ((s.forest.add (some b)).2.locals d).entries) = _
  rw [Forest.chain_of_parent hparent, hchain, List.map_cons, Forest.locals_add,
    Forest.locals_of_le (Nat.le_refl _), bindings]
  refine congrArg _ (List.map_congr_left fun d _ => ?_)
  rw [Forest.locals_add]

theorem addScopes_succ (present : b < s.forest.size) (count : Nat) :
    (s.addScopes b (count + 1)).1 = s.forest.size + count ∧
      (s.addScopes b (count + 1)).2.forest.size = s.forest.size + count + 1 ∧
      (s.addScopes b (count + 1)).2.bindings (s.forest.size + count) =
        List.replicate (count + 1) [] ++ s.bindings b := by
  induction count generalizing s b with
  | zero => exact ⟨rfl, Forest.size_add .., bindings_addScope present⟩
  | succ count ih =>
    have hsize : (s.addScope (some b)).2.forest.size = s.forest.size + 1 := Forest.size_add ..
    have hnext : s.forest.size + 1 + count = s.forest.size + (count + 1) := by omega
    have hinner := ih (s := (s.addScope (some b)).2) (b := s.forest.size)
      (hsize ▸ Nat.lt_succ_self _)
    rw [hsize, hnext, bindings_addScope present] at hinner
    obtain ⟨hlast, hmany, hbindings⟩ := hinner
    refine ⟨hlast, hmany, hbindings.trans ?_⟩
    rw [List.replicate_succ' (n := count + 1), List.append_assoc]
    rfl

theorem descend_bindings (known : s.configuration = .ok c) (present : b < s.forest.size)
    (count : Nat) :
    let t := s.after (.op (.scope (.descend b (count + 1))))
    t.configuration = .ok c ∧ t.forest.size = s.forest.size + count + 1 ∧
      t.bindings (s.forest.size + count) = List.replicate (count + 1) [] ++ s.bindings b := by
  have hstep : s.after (.op (.scope (.descend b (count + 1)))) =
      (({ s with config := some c } : Session).addScopes b (count + 1)).2 := by
    show (s.withScope b _).1 = _
    rw [withScope, if_pos present, withConfig_of_ok known]
    rfl
  obtain ⟨g, hadded, -⟩ := becomes_addScopes { s with config := some c } b (count + 1)
  obtain ⟨-, hsize, hbindings⟩ := addScopes_succ (s := { s with config := some c }) present count
  rw [hstep]
  refine ⟨?_, hsize, hbindings⟩
  rw [hadded]
  exact configuration_of_kept rfl

/-- A chain without variables for which there are too few levels is captured but has no text. -/
theorem empty_refused (known : s.configuration = .ok c) (present : b < s.forest.size) {n : Nat}
    (empty : s.bindings b = List.replicate (n + 1) []) (deep : levelLimit ≤ n)
    (allowed : n ≤ c.maxSnapshotDepth) :
    s.ask (.depth b) = .reply (.number n) ∧
      (∃ id, (s.step (.snapshot (.capture b))).2.answer = .ok (.snapshot id)) ∧
      (s.step (.snapshot (.serialize b))).2.answer =
        .error (.snapshot (.unwritable .deep)) := by
  have hdepth : s.forest.depth b = n := by
    have hlength := congrArg List.length empty
    rw [length_bindings, List.length_replicate] at hlength
    exact Nat.succ.inj hlength
  obtain ⟨wss, hbare⟩ := exists_bareChain (s := s) (b := b) fun es hes e he => by
    rw [empty] at hes
    rw [List.eq_of_mem_replicate hes] at he
    cases he
  obtain ⟨snapshot, hsnapshot, -⟩ := hbare.captured
  have hdeep : levelLimit < Snapshot.levels (s.bindings b) := by
    rw [Snapshot.levels, length_bindings, hdepth]
    omega
  have hshallow : s.forest.depth b ≤ c.maxSnapshotDepth := hdepth ▸ allowed
  refine ⟨?_, ⟨_, by rw [capture_of_ok known present hshallow hsnapshot]⟩,
    hbare.refused known present hshallow ?_⟩
  · rw [ask_depth present, hdepth]
  · rw [refusal?, if_pos hdeep]

def opened : Session := (start ⟨[], none⟩).afterAll [.op (.scope (.create none))]

/-- A chain of 256 scopes is one that the default configuration allows.  There is no variable in
it, and it is captured, but it has no text. -/
theorem descended_refused :
    let s := opened.after (.op (.scope (.descend 0 255)))
    s.Reachable ∧ (∃ c, s.configuration = .ok c ∧ c.maxSnapshotDepth = 256) ∧
      s.bindings 255 = List.replicate 256 [] ∧ s.ask (.depth 255) = .reply (.number 255) ∧
      (∃ id, (s.step (.snapshot (.capture 255))).2.answer = .ok (.snapshot id)) ∧
      (s.step (.snapshot (.serialize 255))).2.answer =
        .error (.snapshot (.unwritable .deep)) := by
  obtain ⟨c, hopened, hlimit⟩ : ∃ c, opened.configuration = .ok c ∧ c.maxSnapshotDepth = 256 :=
    ⟨_, rfl, by decide +kernel⟩
  have hone : opened.forest.size = 1 := by decide +kernel
  have hglobal : opened.bindings 0 = [[]] := by
    rw [bindings, Forest.chain_of_global (by decide +kernel)]
    rfl
  obtain ⟨hknown, hsize, hbindings⟩ := descend_bindings hopened (hone ▸ Nat.zero_lt_one) 254
  rw [hone] at hsize hbindings
  rw [hglobal] at hbindings
  have hreachable : ∀ e, (opened.after e).Reachable := fun e =>
    (show opened.Reachable from ⟨_, _, rfl⟩).afterAll [e]
  specialize hreachable (.op (.scope (.descend 0 255)))
  -- From here on it does not matter what the session is.
  generalize opened.after (.op (.scope (.descend 0 255))) = s at *
  have hempty : s.bindings 255 = List.replicate (255 + 1) [] :=
    hbindings.trans List.replicate_succ'.symm
  exact ⟨hreachable, ⟨c, hknown, hlimit⟩, hempty,
    empty_refused hknown (by rw [hsize]; decide) hempty (by decide) (by rw [hlimit]; decide)⟩

end Session
end ScopeChain
