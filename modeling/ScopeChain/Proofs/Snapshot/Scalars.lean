/-
Scopes that hold scalars.

Null, bools, integers and texts are in JSON as they are, and each takes one level.  So scopes that
hold nothing else have a tree exactly if there is a level for each of them and, if the outermost
holds anything, one more.  Where there is not, they are refused as too deep.
-/
import ScopeChain.Proofs.Snapshot.Nested

namespace ScopeChain

open Snapshot (levelLimit)

/-- Values that JSON has as they are, and that hold no others. -/
inductive Value.Scalar : Value → Json → Prop where
  | null : Scalar .null .null
  | bool (b : Bool) : Scalar (.bool b) (.bool b)
  | int (i : Int) : Scalar (.int i) (.int i)
  | text (s : String) : Scalar (.text s) (.text s)

def Value.isLongInteger : Value → Bool
  | .int i => Json.digitLimit < (Digits.ofNat i.natAbs).length
  | _ => false

inductive Entry.Bare : Entry → Written → Prop where
  | intro (name : String) {v : Value} {j : Json} (scalar : v.Scalar j) :
    Bare ⟨name, v, none⟩ ⟨name, j, none⟩

namespace Entry.Bare

variable {e : Entry} {w : Written} (bare : e.Bare w)

include bare

theorem spells (h : Heap) : e.Spells h w := by
  obtain ⟨name, scalar⟩ := bare
  refine ⟨rfl, ?_, .none⟩
  cases scalar <;> rfl

theorem eq_of_spells {h : Heap} {e' : Entry} (spelled : e'.Spells h w) : e' = e := by
  obtain ⟨name, scalar⟩ := bare
  obtain ⟨name', value', metadata'⟩ := e'
  obtain ⟨hname, hvalue, hmetadata⟩ := spelled
  cases hname
  cases hmetadata
  cases scalar <;> cases hvalue <;> rfl

theorem plain : e.Plain := by
  obtain ⟨name, scalar⟩ := bare
  exact fun _ h => nomatch h

theorem sound : w.Sound := by
  obtain ⟨name, scalar⟩ := bare
  refine ⟨?_, fun _ h => nomatch h⟩
  cases scalar <;> exact ⟨trivial, trivial⟩

theorem fits_iff {room : Nat} : w.Fits room ↔ 0 < room := by
  obtain ⟨name, scalar⟩ := bare
  cases scalar <;> exact ⟨fun fits => fits.1, fun h => ⟨h, fun _ h => nomatch h⟩⟩

theorem hasLongInteger : w.tree.hasLongInteger = e.value.isLongInteger := by
  obtain ⟨name, scalar⟩ := bare
  cases scalar <;>
    simp [Written.tree, Json.hasLongInteger, Json.memberLongInteger, Value.isLongInteger]

theorem entryTree_deep (heap : Heap) (snapshots : Array Snapshot) :
    Snapshot.entryTree (Snapshot.valueTree heap snapshots 0 []) e = .error .deep := by
  obtain ⟨name, scalar⟩ := bare
  cases scalar <;> simp [Snapshot.entryTree, Snapshot.valueTree, Snapshot.node?]

end Entry.Bare

namespace Snapshot

open Written (FitsChain chainTree)

variable {room : Nat} {wss : List (List Written)}

def levels (ess : List (List Entry)) : Nat :=
  ess.length + if (ess.getLast?.getD []).isEmpty then 0 else 1

theorem levels_cons (es : List Entry) {ess : List (List Entry)} (some : ess ≠ []) :
    levels (es :: ess) = levels ess + 1 := by
  obtain ⟨last, hlast⟩ := Option.ne_none_iff_exists'.mp (mt List.getLast?_eq_none_iff.mp some)
  rw [levels, levels, List.getLast?_cons, hlast, List.length_cons]
  simp only [Option.getD_some]
  omega

theorem fits_iff {es : List Entry} {ws : List Written}
    (bare : List.Forall₂ Entry.Bare es ws) : (∀ w ∈ ws, w.Fits room) ↔ es = [] ∨ 0 < room := by
  cases bare with
  | nil => simp
  | @cons e w es ws he hes =>
    refine ⟨fun fits => Or.inr (he.fits_iff.mp (fits w List.mem_cons_self)), ?_⟩
    rintro (heq | hroom) u hu
    · cases heq
    · obtain ⟨d, -, hd⟩ := Listwise.exists_left (.cons he hes) hu
      exact hd.fits_iff.mpr hroom

/-- Scopes with bare variables fit exactly on as many levels as they take. -/
theorem fitsChain_iff {ess : List (List Entry)}
    (bare : List.Forall₂ (List.Forall₂ Entry.Bare) ess wss) :
    FitsChain room wss ↔ levels ess ≤ room := by
  induction bare generalizing room with
  | nil => exact iff_of_true (by simp [FitsChain]) (Nat.zero_le _)
  | @cons es ws ess wss hes hrest ih =>
    cases room with
    | zero => exact iff_of_false id (by simp [levels])
    | succ room =>
      rw [FitsChain, fits_iff hes, ih]
      cases hrest with
      | nil => cases es <;> simp [levels, Nat.lt_iff_add_one_le]
      | cons hfs hrest =>
        -- The scopes around this one leave it a level for its variables.
        rw [levels_cons es (List.cons_ne_nil _ _), Nat.succ_le_succ_iff, and_iff_right_of_imp]
        intro enough
        refine Or.inr (Nat.lt_of_lt_of_le ?_ enough)
        simp [levels]

/-- Frames with bare variables are refused as too deep where they do not fit. -/
theorem framesTree_deep (heap : Heap) (snapshots : Array Snapshot) {frames : List Frame}
    (bare : List.Forall₂ (fun frame ws => List.Forall₂ Entry.Bare frame.entries ws) frames wss)
    (overfull : ¬ FitsChain room wss) :
    framesTree heap snapshots room [] none frames = .error .deep := by
  induction bare generalizing room with
  | nil => exact absurd (by simp [FitsChain]) overfull
  | @cons frame ws outer wss hws houter ih =>
    cases room with
    | zero =>
      rw [framesTree]
      rfl
    | succ room =>
      rw [framesTree_cons]
      by_cases hfits : ∀ w ∈ ws, w.Fits room
      · have htrees : entryTrees (valueTree heap snapshots room []) frame.entries =
            .ok (ws.map Written.tree) :=
          entryTrees_eq_ok.mpr ⟨ws, Listwise.imp hws fun e _ w hw he =>
            isWritten_of_spells snapshots (he.spells heap) he.sound (hfits w hw), rfl⟩
        rw [htrees, ih fun fits => overfull ⟨hfits, fits⟩]
      · obtain ⟨hsome, hroom⟩ := not_or.mp (mt (fits_iff hws).mpr hfits)
        obtain rfl := Nat.eq_zero_of_not_pos hroom
        cases hentries : frame.entries with
        | nil => exact absurd hentries hsome
        | cons e es =>
          rw [hentries] at hws
          cases hws with
          | cons he hes => rw [entryTrees, he.entryTree_deep]

theorem hasLongInteger_chainTree {ess : List (List Entry)}
    (bare : List.Forall₂ (List.Forall₂ Entry.Bare) ess wss) (few : wss.length ≤ levelLimit) :
    (chainTree wss).hasLongInteger = ess.any fun es => es.any fun e => e.value.isLongInteger := by
  rw [Bool.eq_iff_iff, ← not_iff_not, Bool.not_eq_true, Bool.not_eq_true, List.any_eq_false]
  have hiff : (chainTree wss).hasLongInteger = false ↔
      ∀ ws ∈ wss, ∀ w ∈ ws, w.tree.hasLongInteger = false :=
    ⟨Written.short_of_chainTree, fun short => Written.short_chainTree short few⟩
  rw [hiff]
  constructor
  · intro short es hes
    obtain ⟨ws, hws, hall⟩ := Listwise.exists_right bare hes
    refine Bool.eq_false_iff.mp (List.any_eq_false.mpr fun e he => ?_)
    obtain ⟨w, hw, hew⟩ := Listwise.exists_right hall he
    rw [← hew.hasLongInteger, short ws hws w hw]
    exact Bool.false_ne_true
  · intro short ws hws w hw
    obtain ⟨es, hes, hall⟩ := Listwise.exists_left bare hws
    obtain ⟨e, he, hew⟩ := Listwise.exists_left hall hw
    rw [hew.hasLongInteger]
    exact Bool.eq_false_iff.mpr
      (List.any_eq_false.mp (Bool.eq_false_iff.mpr (short es hes)) e he)

end Snapshot
end ScopeChain
