/-
Sessions that can be reached.

A host makes containers and performs operations, in any order.  In every session that it
reaches, the dicts have distinct keys, those in the heap and those that are metadata, the
keys of the metadata in snapshots are texts, and scripts run in scopes that exist.
-/
import ScopeChain.Proofs.Json.Names
import ScopeChain.Proofs.Session.Effect
import ScopeChain.Proofs.Snapshot.Checked

namespace ScopeChain

inductive Event where
  /-- Makes a container.  A dict is made of pairs in their order. -/
  | make (c : Container)
  | op (op : Op)

namespace Container

def made : Container → Container
  | .dict pairs => .dict (dictOf pairs)
  | c => c

end Container

namespace Session

def after (s : Session) : Event → Session
  | .make c => { s with heap := (s.heap.alloc c.made).2 }
  | .op op => (s.step op).1

def afterAll (s : Session) (events : List Event) : Session := events.foldl after s

def Reachable (s : Session) : Prop := ∃ sources events, s = (start sources).afterAll events

/-- What is kept by all that is reachable satisfies what its beginnings do. -/
theorem Reachable.induction {P : Session → Prop} (begins : ∀ sources, P (start sources))
    (keeps : ∀ s event, P s → P (s.after event)) {s : Session} (reachable : s.Reachable) :
    P s := by
  obtain ⟨sources, events, rfl⟩ := reachable
  have hfold : ∀ (events : List Event) (s : Session), P s → P (s.afterAll events) := by
    intro events
    induction events with
    | nil => exact fun _ h => h
    | cons event rest ih => exact fun s h => ih _ (keeps s event h)
  exact hfold events _ (begins sources)

end Session

def Entry.Distinct (e : Entry) : Prop := ∀ m ∈ e.metadata, KeysDistinct m

def Locals.Distinct (l : Locals) : Prop := ∀ e ∈ l.entries, e.Distinct

/-! ## What is kept -/

theorem Write.distinct_replay {b : ScopeId} {ws : List Write}
    (distinct : ∀ w ∈ ws, ∀ m ∈ w.metadata, KeysDistinct m) {l : Locals} (h : l.Distinct) :
    (replay b ws l).Distinct := by
  induction ws generalizing l with
  | nil => exact h
  | cons w ws ih =>
    refine ih (fun u hu => distinct u (List.mem_cons_of_mem _ hu)) ?_
    show (apply b l w).Distinct
    rw [apply]
    split
    next =>
      intro e he m hm
      rcases Entry.metadata_of_mem_insert he m hm with hnew | ⟨d, hd, hmd⟩
      · exact distinct w List.mem_cons_self m hnew
      · exact h d hd m hmd
    next => exact h

namespace Heap

theorem proper_alloc {h : Heap} (proper : h.Proper) {c : Container}
    (distinct : ∀ entries, c = .dict entries → KeysDistinct entries) :
    (h.alloc c).2.Proper := by
  intro id entries found
  by_cases lt : id < h.cells.size
  · rw [get?_alloc_of_lt lt] at found
    exact proper id entries found
  · simp only [get?, alloc, Array.getElem?_push] at found
    split at found
    next => exact distinct entries (Option.some.inj found)
    next =>
      rw [Array.getElem?_eq_none (Nat.le_of_not_lt lt)] at found
      cases found

theorem proper_replace {h : Heap} (proper : h.Proper) {id : ContainerId} {old c : Container}
    (here : h.get? id = some old)
    (distinct : ∀ entries, c = .dict entries → KeysDistinct entries) : (h.replace id c).Proper := by
  intro other entries found
  by_cases ne : other = id
  · subst ne
    rw [get?_replace_self here] at found
    exact distinct entries (Option.some.inj found)
  · rw [get?_replace_of_ne h ne] at found
    exact proper other entries found

theorem keys_ofMembers (h : Heap) (members : List (String × Json)) :
    (h.ofMembers members).1.map Prod.fst = members.map fun m => Key.text m.1 := by
  induction members generalizing h with
  | nil => rfl
  | cons m rest ih =>
    show Key.text m.1 :: _ = _
    rw [List.map_cons, ← ih]

/- The containers of a tree without double names have distinct keys. -/
mutual
theorem proper_ofJson : ∀ (j : Json) {h : Heap}, h.Proper → Json.Every Json.NamesDistinct j →
    (h.ofJson j).2.Proper
  | .null, _, proper, _ => proper
  | .bool _, _, proper, _ => proper
  | .int _, _, proper, _ => proper
  | .float _, _, proper, _ => proper
  | .text _, _, proper, _ => proper
  | .array items, _, proper, distinct =>
    proper_alloc (proper_ofItems items proper distinct.2) fun _ e => nomatch e
  | .object members, h, proper, distinct => by
    refine proper_alloc (proper_ofMembers members proper distinct.2) ?_
    rintro _ ⟨⟩
    refine (keysDistinct_iff_nodup ?_).mpr distinct.1
    rw [keys_ofMembers, List.map_map]
    rfl

theorem proper_ofItems : ∀ (items : List Json) {h : Heap}, h.Proper →
    Json.EveryItem Json.NamesDistinct items → (h.ofItems items).2.Proper
  | [], _, proper, _ => proper
  | j :: items, _, proper, distinct =>
    proper_ofItems items (proper_ofJson j proper distinct.1) distinct.2

theorem proper_ofMembers : ∀ (members : List (String × Json)) {h : Heap}, h.Proper →
    Json.EveryMember Json.NamesDistinct members → (h.ofMembers members).2.Proper
  | [], _, proper, _ => proper
  | (_, j) :: members, _, proper, distinct =>
    proper_ofMembers members (proper_ofJson j proper distinct.1) distinct.2
end

theorem Next.proper {h h' : Heap} (next : h.Next h') (proper : h.Proper) : h'.Proper := by
  cases next with
  | same => exact proper
  | append done =>
    obtain ⟨items, found, rfl⟩ := append_eq_some.mp done
    exact proper_replace proper found fun _ => nofun
  | put done =>
    obtain ⟨entries, found, rfl⟩ := put_eq_some.mp done
    refine proper_replace proper found ?_
    rintro _ ⟨⟩
    exact keysDistinct_putEntry (proper _ entries found) _ _
  | read legible => exact proper_ofJson _ proper (Json.distinct_of_read legible)

end Heap

namespace Session

/-- What holds of every session that can be reached. -/
structure Proper (s : Session) : Prop where
  heap : s.heap.Proper
  scopes : ∀ b, (s.forest.locals b).Distinct
  snapshots : ∀ snapshot ∈ s.snapshots, snapshot.Plain
  sited : s.Sited

theorem proper_start (sources : Sources) : (start sources).Proper where
  heap id entries found := by
    have hnone : (start sources).heap.get? id = none := Array.getElem?_eq_none (Nat.zero_le id)
    rw [hnone] at found
    cases found
  scopes b := by
    rw [Forest.locals_of_le (Nat.zero_le b)]
    exact fun e he => absurd he List.not_mem_nil
  snapshots snapshot mem := absurd mem (Array.not_mem_empty snapshot)
  sited script mem := absurd mem (Array.not_mem_empty script)

theorem distinct_frameWrites {base : ScopeId} {frames : List Frame}
    (plain : ∀ frame ∈ frames, ∀ e ∈ frame.entries, e.Plain) :
    ∀ w ∈ Snapshot.frameWrites base frames, ∀ m ∈ w.metadata, KeysDistinct m := by
  induction frames with
  | nil => exact fun w hw => absurd hw List.not_mem_nil
  | cons frame outer ih =>
    intro w hw m hm
    rcases List.mem_append.mp hw with hw | hw
    · exact ih (fun f hf => plain f (List.mem_cons_of_mem _ hf)) w hw m hm
    · obtain ⟨e, he, rfl⟩ := List.mem_map.mp hw
      exact (plain frame List.mem_cons_self e he m hm).2

theorem Proper.distinct_loadWrites {s : Session} (proper : s.Proper) (heap : Heap)
    (data : Value) : ∀ w ∈ s.loadWrites heap data, ∀ m ∈ w.metadata, KeysDistinct m := by
  rw [loadWrites]
  split
  next snapshot hs =>
    exact distinct_frameWrites (Snapshot.plain_of_ofValue proper.snapshots hs)
  next => exact fun w hw => absurd hw List.not_mem_nil

theorem mem_configured {s : Session} {ws : Config → List Write} {w : Write}
    (h : w ∈ s.configured ws) : ∃ c, w ∈ ws c := by
  rw [configured] at h
  split at h
  next c _ => exact ⟨c, h⟩
  next => cases h

theorem Proper.distinct_intended {s : Session} (proper : s.Proper) (op : Op) :
    ∀ w ∈ s.intended op, ∀ m ∈ w.metadata, KeysDistinct m := by
  have hbare : ∀ w : Write, w.metadata = none → ∀ m ∈ w.metadata, KeysDistinct m := by
    intro w hnone m hm
    rw [hnone] at hm
    cases hm
  intro w hw
  unfold intended at hw
  split at hw
  next b name value metadata =>
    rw [List.mem_singleton.mp hw]
    intro m hm
    obtain ⟨pairs, -, rfl⟩ := Option.map_eq_some_iff.mp hm
    exact keysDistinct_dictOf pairs
  next => exact hbare w (by rw [List.mem_singleton.mp hw])
  next =>
    obtain ⟨c, hw⟩ := mem_configured hw
    exact hbare w (by rw [List.mem_singleton.mp hw])
  next =>
    obtain ⟨c, hw⟩ := mem_configured hw
    exact hbare w (by rw [List.mem_singleton.mp hw])
  next =>
    split at hw
    next =>
      obtain ⟨c, hw⟩ := mem_configured hw
      rcases List.mem_pair.mp hw with rfl | rfl
      · exact hbare _ rfl
      · exact hbare _ rfl
    next => cases hw
  next =>
    split at hw
    next => exact hbare w (by rw [List.mem_singleton.mp hw])
    next => cases hw
  next =>
    split at hw
    next => exact hbare w (by rw [List.mem_singleton.mp hw])
    next => cases hw
  next =>
    split at hw
    next snapshot found =>
      exact distinct_frameWrites (proper.snapshots snapshot (Array.mem_of_getElem? found)) w hw
    next => cases hw
  next =>
    split at hw
    next => exact proper.distinct_loadWrites _ _ w hw
    next => cases hw
  next => exact proper.distinct_loadWrites _ _ w hw
  next => cases hw

theorem Proper.step {s : Session} (proper : s.Proper) (op : Op) : (s.step op).1.Proper := by
  have heffect := effect_step proper.sited op
  refine ⟨heffect.heap.proper proper.heap, fun b => ?_, fun snapshot mem => ?_,
    fun script mem => ?_⟩
  · cases ha : (s.step op).2.answer with
    | ok a =>
      rw [(heffect.done a ha).locals]
      exact Write.distinct_replay (proper.distinct_intended op) (proper.scopes b)
    | error e =>
      rw [heffect.failed e ha]
      exact proper.scopes b
  · rcases heffect.snapshots snapshot mem with mem | ⟨b, hb⟩ | ⟨fields, hfields⟩
    · exact proper.snapshots snapshot mem
    · exact Snapshot.plain_of_capture hb
    · exact Snapshot.plain_of_ofFields proper.snapshots hfields
  · rcases heffect.scripts script mem with mem | lt
    · exact Nat.lt_of_lt_of_le (proper.sited script mem) heffect.forest.size
    · exact lt

theorem Proper.after {s : Session} (proper : s.Proper) (event : Event) :
    (s.after event).Proper := by
  cases event with
  | op op => exact proper.step op
  | make c =>
    refine ⟨Heap.proper_alloc proper.heap ?_, proper.scopes, proper.snapshots, proper.sited⟩
    intro entries hc
    cases c with
    | dict pairs =>
      cases hc
      exact keysDistinct_dictOf pairs
    | _ => cases hc

/-- Every session that can be reached is proper. -/
theorem Reachable.proper {s : Session} (reachable : s.Reachable) : s.Proper :=
  reachable.induction proper_start fun _ event h => h.after event

end Session
end ScopeChain
