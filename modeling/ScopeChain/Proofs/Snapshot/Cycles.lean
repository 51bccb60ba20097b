/-
Cycles among the containers that are written.

The tree of a value knows on which containers it stands, and is refused as circular where one of
them comes again.  So a value with a cycle anywhere has no tree, and what is refused as circular
has a cycle: a container that is held twice is not on the way to itself.  Tuples are written as
lists.
-/
import ScopeChain.Proofs.Value.Copies

namespace ScopeChain
namespace Snapshot

variable {heap : Heap} {snapshots : Array Snapshot} {room : Nat} {path : List Node}
  {v w : Value} {j : Json}

/-! ## What has a tree -/

/-- What is right inside a container with a tree has one, on the container. -/
theorem valueTree_inside {id : ContainerId} {c : Container}
    (h : valueTree heap snapshots (room + 1) path (.container id) = .ok j)
    (found : heap.get? id = some c) (mem : w ∈ c.values) :
    ∃ k, valueTree heap snapshots room (.container id :: path) w = .ok k := by
  obtain ⟨-, ⟨items, js, hfound, htrees, -⟩ | ⟨entries, members, hfound, htrees, -⟩⟩ :=
    valueTree_container_eq_ok.mp h
  · have hvalues : c.values = items := by
      rcases Heap.eq_of_items? found hfound with rfl | rfl
      · rfl
      · rfl
    obtain ⟨k, -, hk⟩ := Listwise.exists_right (itemTrees_eq_ok.mp htrees) (hvalues ▸ mem)
    exact ⟨k, hk⟩
  · cases Heap.eq_of_dict? found hfound
    obtain ⟨e, he, rfl⟩ := List.mem_map.mp mem
    exact exists_tree_of_memberTrees htrees e he

/-- What is held by a value with a tree has one, on all that the value stands on. -/
theorem valueTree_of_holds (held : heap.Holds v w)
    (h : valueTree heap snapshots room path v = .ok j) :
    ∃ room' path' k, path ⊆ path' ∧ valueTree heap snapshots room' path' w = .ok k := by
  induction room generalizing v path j with
  | zero => exact absurd h (valueTree_zero_ne_ok heap snapshots path v j)
  | succ room ih =>
    rcases Heap.holds_cases held with rfl | ⟨id, rfl, c, u, found, mem, held⟩
    · exact ⟨room + 1, path, j, List.Subset.refl path, h⟩
    · obtain ⟨k, hk⟩ := valueTree_inside h found mem
      obtain ⟨room', path', k', hsub, hk'⟩ := ih held hk
      exact ⟨room', path', k', fun node hnode => hsub (List.mem_cons_of_mem _ hnode), hk'⟩

theorem not_cyclic_of_valueTree {id : ContainerId} (held : heap.Holds v (.container id))
    (h : valueTree heap snapshots room path v = .ok j) : ¬ heap.Cyclic id := by
  rintro ⟨c, u, found, mem, hback⟩
  obtain ⟨room', path', k, -, hk⟩ := valueTree_of_holds held h
  cases room' with
  | zero => exact absurd hk (valueTree_zero_ne_ok heap snapshots path' _ k)
  | succ room' =>
    obtain ⟨k', hk'⟩ := valueTree_inside hk found mem
    obtain ⟨room'', path'', k'', hsub, hk''⟩ := valueTree_of_holds hback hk'
    cases room'' with
    | zero => exact absurd hk'' (valueTree_zero_ne_ok heap snapshots path'' _ k'')
    | succ room'' =>
      have hnot := (valueTree_container_eq_ok.mp hk'').1
      exact hnot (hsub List.mem_cons_self)

theorem not_cyclic_of_isWrittenChain {frames : List Frame} {wss : List (List Written)}
    (written : IsWrittenChain heap snapshots room frames wss) {frame : Frame}
    (hframe : frame ∈ frames) {e : Entry} (he : e ∈ frame.entries) (hv : v ∈ e.values)
    {id : ContainerId} (held : heap.Holds v (.container id)) : ¬ heap.Cyclic id := by
  induction frames generalizing room wss with
  | nil => cases hframe
  | cons first outer ih =>
    cases room with
    | zero => simp [IsWrittenChain] at written
    | succ room =>
      cases wss with
      | nil => simp [IsWrittenChain] at written
      | cons ws wss =>
        rcases List.mem_cons.mp hframe with rfl | hframe
        · obtain ⟨w, -, -, hvalue, hmetadata⟩ := Listwise.exists_right written.1 he
          rcases List.mem_cons.mp hv with rfl | hv
          · exact not_cyclic_of_valueTree held hvalue
          · cases hm : e.metadata with
            | none =>
              rw [hm] at hv
              cases hv
            | some m =>
              rw [hm] at hv hmetadata
              generalize w.metadata = members at hmetadata
              cases hmetadata with
              | some htrees =>
                obtain ⟨p, hp, rfl⟩ := List.mem_map.mp hv
                obtain ⟨k, hk⟩ := exists_tree_of_memberTrees htrees p hp
                exact not_cyclic_of_valueTree held hk
        · exact ih written.2 hframe

/-! ## What is refused as circular -/

theorem itemTrees_eq_error {tree : Value → Except Refusal Json} {values : List Value}
    {r : Refusal} (h : itemTrees tree values = .error r) : ∃ w ∈ values, tree w = .error r := by
  induction values with
  | nil => cases h
  | cons w rest ih =>
    rw [itemTrees] at h
    split at h
    next r' htree =>
      cases h
      exact ⟨w, List.mem_cons_self, htree⟩
    next =>
      split at h
      next => cases h
      next r' hrest =>
        cases h
        obtain ⟨u, hu, htree⟩ := ih hrest
        exact ⟨u, List.mem_cons_of_mem _ hu, htree⟩

mutual
theorem keyText_ne_cyclic : ∀ k : Key, keyText k ≠ .error .cyclic
  | .null | .bool _ | .float _ | .text _ => by simp [keyText]
  | .int i => by
    rw [keyText]
    split <;> simp
  | .bytes bs => by
    rw [keyText, bytesText]
    split <;> simp
  | .tuple items => by
    have hitems := keyTexts_ne_cyclic items
    rw [keyText]
    split
    next => simp
    next r hr => simpa [hr] using hitems

theorem keyTexts_ne_cyclic : ∀ ks : List Key, keyTexts ks ≠ .error .cyclic
  | [] => by simp [keyTexts]
  | k :: rest => by
    have hfirst := keyText_ne_cyclic k
    have hrest := keyTexts_ne_cyclic rest
    rw [keyTexts]
    split
    next r hr => simpa [hr] using hfirst
    next =>
      split
      next => simp
      next r hr => simpa [hr] using hrest
end

theorem memberTrees_cyclic {tree : Value → Except Refusal Json} {entries : Metadata}
    {done : List (String × Json)} (h : memberTrees tree done entries = .error .cyclic) :
    ∃ w ∈ entries.map Prod.snd, tree w = .error .cyclic := by
  induction entries generalizing done with
  | nil => cases h
  | cons e rest ih =>
    obtain ⟨k, w⟩ := e
    rw [memberTrees] at h
    split at h
    next r hr =>
      cases h
      exact absurd hr (keyText_ne_cyclic k)
    next =>
      split at h
      next r htree =>
        cases h
        exact ⟨w, List.mem_cons_self, htree⟩
      next =>
        obtain ⟨u, hu, htree⟩ := ih h
        exact ⟨u, List.mem_cons_of_mem _ hu, htree⟩

theorem scalarTree_ne_cyclic (v : Value) : scalarTree v ≠ .error .cyclic := by
  cases v with
  | bytes bs =>
    rw [scalarTree, bytesText]
    split
    next => simp
    next r hr =>
      split at hr
      next => cases hr
      next =>
        cases hr
        simp
  | _ => simp [scalarTree]

/-- A value that is refused as circular is a container on the way, or something right inside it is
refused. -/
theorem valueTree_cyclic_cases {id : ContainerId}
    (h : valueTree heap snapshots room path (.container id) = .error .cyclic) :
    Node.container id ∈ path ∨ ∃ room' c w, room = room' + 1 ∧ heap.get? id = some c ∧
      w ∈ c.values ∧ valueTree heap snapshots room' (.container id :: path) w = .error .cyclic := by
  by_cases hpath : Node.container id ∈ path
  · exact Or.inl hpath
  · refine Or.inr ?_
    cases room with
    | zero =>
      rw [valueTree] at h
      simp [node?, hpath] at h
    | succ room =>
      rw [valueTree] at h
      cases hget : heap.get? id with
      | none => simp [node?, hpath, hget] at h
      | some c =>
        suffices hinside : ∃ w ∈ c.values,
            valueTree heap snapshots room (.container id :: path) w = .error .cyclic by
          obtain ⟨w, hw, htree⟩ := hinside
          exact ⟨room, c, w, rfl, rfl, hw, htree⟩
        generalize valueTree heap snapshots room (.container id :: path) = tree at h ⊢
        cases c with
        | list items | tuple items =>
          cases htrees : itemTrees tree items with
          | ok js => simp [node?, hpath, hget, htrees] at h
          | error r =>
            obtain rfl : r = .cyclic := by simpa [node?, hpath, hget, htrees] using h
            exact itemTrees_eq_error htrees
        | dict entries =>
          cases htrees : memberTrees tree [] entries with
          | ok members => simp [node?, hpath, hget, htrees] at h
          | error r =>
            obtain rfl : r = .cyclic := by simpa [node?, hpath, hget, htrees] using h
            exact memberTrees_cyclic htrees

/-- What is refused as circular, on nothing but containers around it, holds a container that is
inside itself. -/
theorem cyclic_of_valueTree (plain : ∀ id, ¬ heap.Holds v (.snapshot id))
    (around : ∀ node ∈ path, ∃ id, node = .container id ∧ heap.Inside id v)
    (h : valueTree heap snapshots room path v = .error .cyclic) :
    ∃ id, heap.Holds v (.container id) ∧ heap.Cyclic id := by
  induction room generalizing v path with
  | zero =>
    cases v with
    | container id =>
      rcases valueTree_cyclic_cases h with hpath | ⟨_, _, _, hroom, -⟩
      · obtain ⟨_, heq, hinside⟩ := around _ hpath
        cases heq
        exact ⟨id, .self _, hinside⟩
      · cases hroom
    | snapshot id => exact absurd (.self _) (plain id)
    | _ => simp [valueTree, node?] at h
  | succ room ih =>
    cases v with
    | container id =>
      rcases valueTree_cyclic_cases h with hpath | ⟨_, c, w, hroom, found, mem, htree⟩
      · obtain ⟨_, heq, hinside⟩ := around _ hpath
        cases heq
        exact ⟨id, .self _, hinside⟩
      · cases hroom
        have hinside : heap.Inside id w := ⟨c, w, found, mem, .self w⟩
        obtain ⟨id', hheld, hcyclic⟩ := ih (fun s hs => plain s (hinside.holds.trans hs))
          (fun node hnode => by
            rcases List.mem_cons.mp hnode with rfl | hnode
            · exact ⟨id, rfl, hinside⟩
            · obtain ⟨id', heq, hin⟩ := around node hnode
              exact ⟨id', heq, hin.trans hinside.holds⟩) htree
        exact ⟨id', hinside.holds.trans hheld, hcyclic⟩
    | snapshot id => exact absurd (.self _) (plain id)
    | _ =>
      rw [valueTree_scalar rfl] at h
      exact absurd h (scalarTree_ne_cyclic _)

theorem entryTrees_cyclic {tree : Value → Except Refusal Json} {es : List Entry}
    (h : entryTrees tree es = .error .cyclic) :
    ∃ e ∈ es, ∃ v ∈ e.values, tree v = .error .cyclic := by
  induction es with
  | nil => cases h
  | cons e rest ih =>
    rw [entryTrees] at h
    split at h
    next r hentry =>
      cases h
      refine ⟨e, List.mem_cons_self, ?_⟩
      rw [entryTree] at hentry
      split at hentry
      next r hvalue =>
        cases hentry
        exact ⟨e.value, List.mem_cons_self, hvalue⟩
      next =>
        split at hentry
        next => cases hentry
        next m hm =>
          split at hentry
          next r hmembers =>
            cases hentry
            obtain ⟨w, hw, htree⟩ := memberTrees_cyclic hmembers
            refine ⟨w, List.mem_cons_of_mem _ ?_, htree⟩
            rw [hm]
            exact hw
          next => cases hentry
    next =>
      split at h
      next => cases h
      next r hrest =>
        cases h
        obtain ⟨d, hd, hv⟩ := ih hrest
        exact ⟨d, List.mem_cons_of_mem _ hd, hv⟩

/-- Frames that are refused as circular have a value that holds a container which is inside
itself. -/
theorem cyclic_of_framesTree {frames : List Frame}
    (plain : ∀ frame ∈ frames, ∀ e ∈ frame.entries, ∀ v ∈ e.values, ∀ id,
      ¬ heap.Holds v (.snapshot id))
    (h : framesTree heap snapshots room [] none frames = .error .cyclic) :
    ∃ frame ∈ frames, ∃ e ∈ frame.entries, ∃ v ∈ e.values, ∃ id,
      heap.Holds v (.container id) ∧ heap.Cyclic id := by
  induction frames generalizing room with
  | nil =>
    rw [framesTree] at h
    cases h
  | cons frame outer ih =>
    cases room with
    | zero =>
      rw [framesTree] at h
      cases h
    | succ room =>
      rw [framesTree_cons] at h
      split at h
      next r hentries =>
        cases h
        obtain ⟨e, he, v, hv, htree⟩ := entryTrees_cyclic hentries
        exact ⟨frame, List.mem_cons_self, e, he, v, hv, cyclic_of_valueTree
          (plain frame List.mem_cons_self e he v hv)
          (fun node hnode => absurd hnode List.not_mem_nil) htree⟩
      next =>
        split at h
        next => cases h
        next r houter =>
          cases h
          obtain ⟨frame', hframe', hfound⟩ :=
            ih (fun f hf => plain f (List.mem_cons_of_mem _ hf)) houter
          exact ⟨frame', List.mem_cons_of_mem _ hframe', hfound⟩

/-! ## Tuples -/

theorem valueTree_listed (heap : Heap) (snapshots : Array Snapshot) (room : Nat) :
    (∀ path, valueTree heap.listed snapshots room path = valueTree heap snapshots room path) ∧
      ∀ path owner frames, framesTree heap.listed snapshots room path owner frames =
        framesTree heap snapshots room path owner frames := by
  induction room with
  | zero =>
    refine ⟨fun path => ?_, fun path owner frames => ?_⟩
    · funext v
      rw [valueTree, valueTree]
    · cases frames with
      | nil => rw [framesTree, framesTree]
      | cons frame rest => rw [framesTree, framesTree]
  | succ room ih =>
    obtain ⟨hvalue, hframes⟩ := ih
    refine ⟨fun path => ?_, fun path owner frames => ?_⟩
    · funext v
      cases v with
      | container id =>
        rw [valueTree, valueTree]
        simp only [Heap.get?_listed, hvalue]
        rcases heap.get? id with _ | (_ | _ | _) <;> rfl
      | snapshot id =>
        rw [valueTree, valueTree]
        simp only [hframes]
      | _ => rw [valueTree_scalar rfl, valueTree_scalar rfl]
    · cases frames with
      | nil => rw [framesTree, framesTree]
      | cons frame rest =>
        rw [framesTree, framesTree]
        simp only [hvalue, hframes]

end Snapshot
end ScopeChain
