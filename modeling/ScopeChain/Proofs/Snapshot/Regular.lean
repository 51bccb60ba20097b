/-
The trees of any values.

Whatever a value holds, snapshots included, the names in its tree are distinct, the doubles in it
are finite, and it has at most twice as many levels as there was room for.  For a
scope takes one level of room for the three of its list of variables, of a variable and of its
metadata, but the values in it take one as well.
-/
import ScopeChain.Proofs.Json.ReadBack
import ScopeChain.Proofs.Snapshot.Taken
import ScopeChain.Proofs.Snapshot.Written

namespace ScopeChain

open Json (Every NamesDistinct FiniteDouble)

structure Json.Regular (n : Nat) (j : Json) : Prop where
  distinct : Every NamesDistinct j
  doubles : Every FiniteDouble j
  shallow : j.levels ≤ n

namespace Json.Regular

variable {n m : Nat} {j : Json}

theorem mono (regular : j.Regular n) (le : n ≤ m) : j.Regular m :=
  { regular with shallow := Nat.le_trans regular.shallow le }

theorem array {items : List Json} (all : ∀ j ∈ items, j.Regular n) :
    (Json.array items).Regular (n + 1) where
  distinct := every_array.mpr ⟨trivial, fun j hj => (all j hj).distinct⟩
  doubles := every_array.mpr ⟨trivial, fun j hj => (all j hj).doubles⟩
  shallow := levels_array_le.mpr fun j hj => (all j hj).shallow

theorem object {members : List (String × Json)} (names : (members.map Prod.fst).Nodup)
    (all : ∀ m ∈ members, m.2.Regular n) : (Json.object members).Regular (n + 1) where
  distinct := every_object.mpr ⟨names, fun m hm => (all m hm).distinct⟩
  doubles := every_object.mpr ⟨trivial, fun m hm => (all m hm).doubles⟩
  shallow := levels_object_le.mpr fun m hm => (all m hm).shallow

theorem null : Json.null.Regular (n + 1) := ⟨trivial, trivial, Nat.le_add_left ..⟩

theorem bool (b : Bool) : (Json.bool b).Regular (n + 1) :=
  ⟨trivial, trivial, Nat.le_add_left ..⟩

theorem int (i : Int) : (Json.int i).Regular (n + 1) := ⟨trivial, trivial, Nat.le_add_left ..⟩

theorem text (s : String) : (Json.text s).Regular (n + 1) :=
  ⟨trivial, trivial, Nat.le_add_left ..⟩

end Json.Regular

namespace Snapshot

variable {heap : Heap} {snapshots : Array Snapshot} {room : Nat} {path : List Node}
  {owner : Option SnapshotId} {tree : Value → Except Refusal Json} {n : Nat} {j : Json}

/-! ## What a tree is made of -/

theorem valueTree_snapshot_eq_ok {id : SnapshotId}
    (h : valueTree heap snapshots (room + 1) path (.snapshot id) = .ok j) :
    ∃ s path owner, snapshots[id]? = some s ∧
      framesTree heap snapshots room path owner s.frames = .ok j := by
  rw [valueTree] at h
  split at h
  next => cases h
  next =>
    split at h
    next s hs => exact ⟨s, _, _, hs, h⟩
    next => cases h

theorem framesTree_succ_eq_ok {frame : Frame} {outer : List Frame}
    (h : framesTree heap snapshots (room + 1) path owner (frame :: outer) = .ok j) :
    ∃ path owner ws parent,
      List.Forall₂ (IsWritten (valueTree heap snapshots room path)) frame.entries ws ∧
      framesTree heap snapshots room path owner outer = .ok parent ∧
      j = frameTree frame (ws.map Written.tree) parent := by
  rw [framesTree] at h
  split at h
  next => cases h
  next =>
    simp only at h
    split at h
    next => cases h
    next members hmembers =>
      split at h
      next parent hparent =>
        obtain ⟨ws, hws, rfl⟩ := entryTrees_eq_ok.mp hmembers
        exact ⟨_, _, ws, parent, hws, hparent, (Except.ok.inj h).symm⟩
      next => cases h

/-! ## Regular trees -/

theorem regular_memberTrees {entries : Metadata} {members : List (String × Json)}
    (all : ∀ e ∈ entries, ∀ j, tree e.2 = .ok j → j.Regular n)
    (h : memberTrees tree [] entries = .ok members) : (Json.object members).Regular (n + 1) := by
  obtain ⟨hnames, hfrom⟩ := memberTrees_spec h
  refine .object (hnames List.nodup_nil) fun m hm => ?_
  rcases hfrom m hm with hm | ⟨e, he, htree⟩
  · cases hm
  · exact all e he _ htree

theorem regular_scalarTree {v : Value} (h : scalarTree v = .ok j) : j.Regular (n + 1) := by
  cases v with
  | float x =>
    cases h
    by_cases finite : x.isFinite = true
    · rw [if_pos finite]
      exact ⟨trivial, finite, Nat.le_add_left ..⟩
    · rw [if_neg finite]
      exact .null
  | bytes bs =>
    simp only [scalarTree] at h
    split at h
    next =>
      cases h
      exact .text _
    next => cases h
  | null => cases h; exact .null
  | bool b => cases h; exact .bool b
  | int i => cases h; exact .int i
  | text s => cases h; exact .text s
  | container | object | scope | script | snapshot => cases h

/-- A variable takes a level for itself and one for its metadata. -/
theorem regular_tree {e : Entry} {w : Written} (written : IsWritten tree e w)
    (all : ∀ v ∈ e.values, ∀ j, tree v = .ok j → j.Regular n) : w.tree.Regular (n + 2) := by
  obtain ⟨name, value, metadata⟩ := e
  obtain ⟨wname, wvalue, wmetadata⟩ := w
  obtain ⟨-, hvalue, hmetadata⟩ := written
  refine .object (by simp) fun m hm => ?_
  simp only [List.mem_cons, List.not_mem_nil, or_false] at hm
  rcases hm with rfl | rfl | rfl
  · exact .text wname
  · exact (all value List.mem_cons_self _ hvalue).mono (Nat.le_succ n)
  · cases hmetadata with
    | none => exact .null
    | some hmembers =>
      exact regular_memberTrees (fun p hp => all p.2
        (List.mem_cons_of_mem _ (List.mem_map_of_mem hp))) hmembers

theorem regular_frameTree {frame : Frame} {ws : List Written} {parent : Json}
    (written : List.Forall₂ (IsWritten tree) frame.entries ws)
    (all : ∀ e ∈ frame.entries, ∀ v ∈ e.values, ∀ j, tree v = .ok j → j.Regular n)
    (inner : parent.Regular (n + 3)) :
    (frameTree frame (ws.map Written.tree) parent).Regular (n + 4) := by
  refine .object (by simp) fun m hm => ?_
  simp only [List.mem_cons, List.not_mem_nil, or_false] at hm
  rcases hm with rfl | rfl | rfl | rfl
  · exact .int _
  · exact .bool _
  · refine .array fun j hj => ?_
    obtain ⟨w, hw, rfl⟩ := List.mem_map.mp hj
    obtain ⟨e, he, hew⟩ := Listwise.exists_left written hw
    exact regular_tree hew (all e he)
  · exact inner

/-- The trees of values and of frames are regular.  The room is what both kinds of tree recurse
on. -/
theorem regular_trees (heap : Heap) (snapshots : Array Snapshot) (room : Nat) :
    (∀ path v j, valueTree heap snapshots room path v = .ok j → j.Regular (2 * room)) ∧
    ∀ path owner frames j,
      framesTree heap snapshots room path owner frames = .ok j → j.Regular (2 * room + 2) := by
  induction room with
  | zero =>
    refine ⟨fun path v j h => absurd h (valueTree_zero_ne_ok heap snapshots path v j), ?_⟩
    intro path owner frames j h
    cases frames with
    | nil =>
      rw [framesTree] at h
      cases h
      exact .null
    | cons frame outer =>
      rw [framesTree] at h
      split at h <;> cases h
  | succ room ih =>
    obtain ⟨ihValue, ihFrames⟩ := ih
    constructor
    · intro path v j h
      cases v with
      | container id =>
        obtain ⟨-, ⟨items, js, found, htrees, rfl⟩ | ⟨entries, members, found, htrees, rfl⟩⟩ :=
          valueTree_container_eq_ok.mp h
        · refine (Json.Regular.array fun j hj => ?_).mono
            (show 2 * room + 1 ≤ 2 * (room + 1) by omega)
          obtain ⟨v, hv, hvj⟩ := Listwise.exists_left (itemTrees_eq_ok.mp htrees) hj
          exact ihValue _ v j hvj
        · refine (regular_memberTrees (fun e he j hj => ?_) htrees).mono
            (show 2 * room + 1 ≤ 2 * (room + 1) by omega)
          exact ihValue _ e.2 j hj
      | snapshot id =>
        obtain ⟨s, path, owner, hs, hframes⟩ := valueTree_snapshot_eq_ok h
        exact ihFrames path owner s.frames j hframes
      | null | bool | int | float | text | bytes | object | scope | script =>
        rw [valueTree_scalar rfl] at h
        exact regular_scalarTree h
    · intro path owner frames j h
      cases frames with
      | nil =>
        rw [framesTree] at h
        cases h
        exact .null
      | cons frame outer =>
        obtain ⟨path, owner, ws, parent, hws, hparent, rfl⟩ := framesTree_succ_eq_ok h
        exact regular_frameTree hws (fun e _ v _ j hj => ihValue path v j hj)
          ((ihFrames path owner outer parent hparent).mono (Nat.le_succ _))

end Snapshot
end ScopeChain
