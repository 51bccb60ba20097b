/-
Dialogues that can be had.

A user reads literals and performs operations with values that were read or answered.  In every
dialogue that comes of this, each container that a value names is there.  The containers that are
made for an answer are new, so nothing that was there before names them.
-/
import ScopeChain.Dialogue.Basic
import ScopeChain.Proofs.Session.Stored

namespace ScopeChain

open Heap (Parted IsNew isNew_data)

/-! ## Literals -/

structure Literal.IsRead (h h' : Heap) (v : Value) : Prop where
  within : h.Within h'
  closed : h'.Closed
  below : v.Below h'.cells.size

namespace Literal

variable {handles : Handles}

theorem IsRead.data {h : Heap} (closed : h.Closed) {v : Value} (data : ∀ id, v ≠ .container id) :
    IsRead h h v :=
  ⟨Heap.within_refl h, closed, fun id e => absurd e (data id)⟩

theorem IsRead.alloc {h h' : Heap} (within : h.Within h') (closed : h'.Closed) {c : Container}
    (below : ∀ v ∈ c.values, v.Below h'.cells.size) :
    IsRead h (h'.alloc c).2 (.container (h'.alloc c).1) :=
  ⟨within.trans (Heap.within_alloc h' c), closed.alloc below, Heap.below_alloc h' c⟩

/- What is read is there, if what is kept is. -/
mutual
theorem isRead_read : ∀ (l : Literal) {h h' : Heap} {v : Value}, h.Closed →
    (∀ id ∈ handles.kept, id < h.cells.size) → read handles h l = some (v, h') → IsRead h h' v
  | .null, _, _, _, closed, _, rfl => .data closed fun _ => nofun
  | .bool _, _, _, _, closed, _, rfl => .data closed fun _ => nofun
  | .int _, _, _, _, closed, _, rfl => .data closed fun _ => nofun
  | .float _, _, _, _, closed, _, rfl => .data closed fun _ => nofun
  | .text _, _, _, _, closed, _, rfl => .data closed fun _ => nofun
  | .bytes _, _, _, _, closed, _, rfl => .data closed fun _ => nofun
  | .object _, _, _, _, closed, _, rfl => .data closed fun _ => nofun
  | .cycle, _, _, _, _, _, found => nomatch found
  | .scope n, _, _, _, closed, _, found => by
    obtain ⟨id, -, heq⟩ := Option.map_eq_some_iff.mp found
    cases heq
    exact .data closed fun _ => nofun
  | .script n, _, _, _, closed, _, found => by
    obtain ⟨id, -, heq⟩ := Option.map_eq_some_iff.mp found
    cases heq
    exact .data closed fun _ => nofun
  | .snapshot n, _, _, _, closed, _, found => by
    obtain ⟨id, -, heq⟩ := Option.map_eq_some_iff.mp found
    cases heq
    exact .data closed fun _ => nofun
  | .kept n, h, _, _, closed, known, found => by
    obtain ⟨id, hid, heq⟩ := Option.map_eq_some_iff.mp found
    cases heq
    exact ⟨Heap.within_refl h, closed,
      Value.below_container.mpr (known id (Array.mem_of_getElem? hid))⟩
  | .list items, h, _, _, closed, known, found => by
    obtain ⟨⟨values, h₁⟩, hall, heq⟩ := Option.bind_eq_some_iff.mp found
    cases heq
    obtain ⟨hwithin, hclosed, hbelow⟩ := isRead_readAll items closed known hall
    exact .alloc hwithin hclosed hbelow
  | .tuple items, h, _, _, closed, known, found => by
    obtain ⟨⟨values, h₁⟩, hall, heq⟩ := Option.bind_eq_some_iff.mp found
    cases heq
    obtain ⟨hwithin, hclosed, hbelow⟩ := isRead_readAll items closed known hall
    exact .alloc hwithin hclosed hbelow
  | .dict pairs, h, _, _, closed, known, found => by
    obtain ⟨⟨entries, h₁⟩, hall, heq⟩ := Option.bind_eq_some_iff.mp found
    cases heq
    obtain ⟨hwithin, hclosed, hbelow⟩ := isRead_readPairs pairs closed known hall
    exact .alloc hwithin hclosed fun v mem => hbelow v (mem_values_dictOf mem)

theorem isRead_readAll : ∀ (items : List Literal) {h h' : Heap} {vs : List Value}, h.Closed →
    (∀ id ∈ handles.kept, id < h.cells.size) → readAll handles h items = some (vs, h') →
      h.Within h' ∧ h'.Closed ∧ ∀ v ∈ vs, v.Below h'.cells.size
  | [], h, _, _, closed, _, rfl =>
    ⟨Heap.within_refl h, closed, fun _ mem => absurd mem List.not_mem_nil⟩
  | l :: rest, h, _, _, closed, known, found => by
    obtain ⟨⟨v, h₁⟩, hfirst, found⟩ := Option.bind_eq_some_iff.mp found
    obtain ⟨⟨vs, h₂⟩, hrest, heq⟩ := Option.bind_eq_some_iff.mp found
    cases heq
    obtain ⟨hwithin, hclosed, hbelow⟩ := isRead_read l closed known hfirst
    have hkept : ∀ id ∈ handles.kept, id < h₁.cells.size := fun id mem =>
      Nat.lt_of_lt_of_le (known id mem) hwithin.size
    obtain ⟨hwithin', hclosed', hbelows⟩ := isRead_readAll rest hclosed hkept hrest
    refine ⟨hwithin.trans hwithin', hclosed', fun u mem => ?_⟩
    rcases List.mem_cons.mp mem with rfl | mem
    · exact hbelow.mono hwithin'.size
    · exact hbelows u mem

theorem isRead_readPairs : ∀ (pairs : List (Literal × Literal)) {h h' : Heap} {es : Metadata},
    h.Closed → (∀ id ∈ handles.kept, id < h.cells.size) →
      readPairs handles h pairs = some (es, h') →
      h.Within h' ∧ h'.Closed ∧ ∀ v ∈ es.map Prod.snd, v.Below h'.cells.size
  | [], h, _, _, closed, _, rfl =>
    ⟨Heap.within_refl h, closed, fun _ mem => absurd mem List.not_mem_nil⟩
  | (k, l) :: rest, h, _, _, closed, known, found => by
    obtain ⟨key, -, found⟩ := Option.bind_eq_some_iff.mp found
    obtain ⟨⟨v, h₁⟩, hfirst, found⟩ := Option.bind_eq_some_iff.mp found
    obtain ⟨⟨es, h₂⟩, hrest, heq⟩ := Option.bind_eq_some_iff.mp found
    cases heq
    obtain ⟨hwithin, hclosed, hbelow⟩ := isRead_read l closed known hfirst
    have hkept : ∀ id ∈ handles.kept, id < h₁.cells.size := fun id mem =>
      Nat.lt_of_lt_of_le (known id mem) hwithin.size
    obtain ⟨hwithin', hclosed', hbelows⟩ := isRead_readPairs rest hclosed hkept hrest
    refine ⟨hwithin.trans hwithin', hclosed', fun u mem => ?_⟩
    rcases List.mem_cons.mp mem with rfl | mem
    · exact hbelow.mono hwithin'.size
    · exact hbelows u mem
end

end Literal

/-! ## Replies -/

namespace Reply

variable {n : Nat} {P : Value → Prop} {h h' : Heap} {v : Value}

theorem parted_metadataValue (parted : Parted n P h) (metadata : Option Metadata)
    (new : ∀ m ∈ metadata, ∀ v ∈ m.map Prod.snd, IsNew n P h v) :
    Parted n P (metadataValue h metadata).2 ∧ h.Within (metadataValue h metadata).2 ∧
      (metadataValue h metadata).1.Below (metadataValue h metadata).2.cells.size ∧
      (metadataValue h metadata).1.From n := by
  cases metadata with
  | none => exact ⟨parted, Heap.within_refl h, fun _ => nofun, fun _ => nofun⟩
  | some m =>
    obtain ⟨hparted, hnew⟩ := parted.alloc (c := .dict m) (new m rfl)
    exact ⟨hparted, Heap.within_alloc h _, hnew⟩

theorem parted_itemValues (parted : Parted n P h) (entries : List Entry)
    (new : ∀ e ∈ entries, ∀ v ∈ e.values, IsNew n P h v) :
    Parted n P (itemValues h entries).2 ∧ h.Within (itemValues h entries).2 ∧
      ∀ v ∈ (itemValues h entries).1, IsNew n P (itemValues h entries).2 v := by
  induction entries generalizing h with
  | nil => exact ⟨parted, Heap.within_refl h, fun _ mem => absurd mem List.not_mem_nil⟩
  | cons e rest ih =>
    obtain ⟨hmeta, hwithin, hbelow, hfrom⟩ := parted_metadataValue parted e.metadata
      fun m hm v mem => new e List.mem_cons_self v (Entry.mem_values.mpr (Or.inr ⟨m, hm, mem⟩))
    obtain ⟨htuple, hbelow', hfrom'⟩ := hmeta.alloc
      (c := .tuple [.text e.name, e.value, (metadataValue h e.metadata).1]) (by
        intro v mem
        rcases List.mem_cons.mp mem with rfl | mem
        · exact isNew_data fun _ => nofun
        · rcases List.mem_pair.mp mem with rfl | rfl
          · exact (new e List.mem_cons_self _ (Entry.mem_values.mpr (Or.inl rfl))).mono hwithin
          · exact ⟨hbelow, Or.inl hfrom⟩)
    have hgrown : h.Within ((metadataValue h e.metadata).2.alloc
        (.tuple [.text e.name, e.value, (metadataValue h e.metadata).1])).2 :=
      hwithin.trans (Heap.within_alloc _ _)
    obtain ⟨hrest, hwithin', hnew⟩ := ih htuple fun d hd v mem =>
      (new d (List.mem_cons_of_mem _ hd) v mem).mono hgrown
    refine ⟨hrest, hgrown.trans hwithin', fun v mem => ?_⟩
    rcases List.mem_cons.mp mem with rfl | mem
    · exact ⟨hbelow'.mono hwithin'.size, Or.inl hfrom'⟩
    · exact hnew v mem

theorem parted_newList (parted : Parted n P h) {items : List Value}
    (new : ∀ v ∈ items, IsNew n P h v) :
    Parted n P (newList h items).2 ∧ h.Within (newList h items).2 ∧
      (newList h items).1.Below (newList h items).2.cells.size ∧ (newList h items).1.From n := by
  obtain ⟨hparted, hnew⟩ := parted.alloc (c := .list items) new
  exact ⟨hparted, Heap.within_alloc h _, hnew⟩

def IsCopy : Reply → Prop
  | .names _ | .scopes _ | .metadata _ | .items _ | .config _ => True
  | _ => False

/-- The containers that are made for a reply hold only each other and its values, and a copy is one
of them. -/
structure IsMade (h : Heap) (r : Reply) (v : Value) (h' : Heap) : Prop where
  parted : Parted h.cells.size (· ∈ r.values) h'
  within : h.Within h'
  new : v.From h.cells.size ∨ v ∈ r.values
  copy : r.IsCopy → v.From h.cells.size

theorem isMade_toValue {r : Reply} (closed : h.Closed)
    (below : ∀ v ∈ r.values, v.Below h.cells.size) (shown : r.toValue h = some (v, h')) :
    IsMade h r v h' := by
  have hparted : Parted h.cells.size (· ∈ r.values) h := closed.parted
  have hdata : ∀ u : Value, (∀ id, u ≠ .container id) → some (u, h) = some (v, h') →
      IsMade h r v h' := by
    rintro u data heq
    cases heq
    have hfrom : v.From h.cells.size := fun id e => absurd e (data id)
    exact ⟨hparted, Heap.within_refl h, Or.inl hfrom, fun _ => hfrom⟩
  have hpair : ∀ p : Value × Heap, Parted h.cells.size (· ∈ r.values) p.2 ∧ h.Within p.2 ∧
      p.1.Below p.2.cells.size ∧ p.1.From h.cells.size → some p = some (v, h') →
      IsMade h r v h' := by
    rintro p ⟨made, within, -, from_⟩ heq
    cases heq
    exact ⟨made, within, Or.inl from_, fun _ => from_⟩
  cases r with
  | nothing => exact hdata .null (fun _ => nofun) shown
  | flag b => exact hdata (.bool b) (fun _ => nofun) shown
  | number i => exact hdata (.int i) (fun _ => nofun) shown
  | text s => exact hdata (.text s) (fun _ => nofun) shown
  | scope b => exact hdata (.scope b) (fun _ => nofun) shown
  | script s => exact hdata (.script s) (fun _ => nofun) shown
  | snapshot s => exact hdata (.snapshot s) (fun _ => nofun) shown
  | value u =>
    cases shown
    exact ⟨hparted, Heap.within_refl h, Or.inr (List.mem_singleton_self _), False.elim⟩
  | names ns =>
    refine hpair _ (parted_newList hparted fun u mem => ?_) shown
    obtain ⟨s, -, rfl⟩ := List.mem_map.mp mem
    exact isNew_data fun _ => nofun
  | scopes bs =>
    refine hpair _ (parted_newList hparted fun u mem => ?_) shown
    obtain ⟨b, -, rfl⟩ := List.mem_map.mp mem
    exact isNew_data fun _ => nofun
  | metadata m =>
    refine hpair _ (parted_metadataValue hparted (some m) ?_) shown
    rintro _ ⟨⟩ u mem
    exact ⟨below u mem, Or.inr mem⟩
  | config c =>
    refine hpair _ (parted_metadataValue hparted (some (configEntries c)) ?_) shown
    rintro _ ⟨⟩ u mem
    refine isNew_data ?_
    rintro id rfl
    simp [configEntries] at mem
  | items entries =>
    obtain ⟨hitems, hwithin, hnew⟩ := parted_itemValues hparted entries fun e he u mem =>
      have hu := List.mem_flatMap.mpr ⟨e, he, mem⟩
      ⟨below u hu, Or.inr hu⟩
    obtain ⟨hlist, hwithin', hmade⟩ := parted_newList hitems hnew
    exact hpair (newList (itemValues h entries).2 (itemValues h entries).1)
      ⟨hlist, hwithin.trans hwithin', hmade⟩ shown
  | frames fs => cases shown
  | entry e => cases shown

end Reply

/-! ## What is kept -/

namespace Handles

variable {α β : Type}

def Spares (x : StateM Handles α) : Prop := ∀ handles, (x handles).2.kept = handles.kept

theorem spares_pure (a : α) : Spares (pure a) := fun _ => rfl

theorem Spares.bind {x : StateM Handles α} {f : α → StateM Handles β} (first : Spares x)
    (rest : ∀ a, Spares (f a)) : Spares (x >>= f) :=
  fun handles => (rest _ _).trans (first handles)

theorem spares_mapM {f : α → StateM Handles β} {xs : List α} (each : ∀ x ∈ xs, Spares (f x)) :
    Spares (xs.mapM f) := by
  induction xs with
  | nil => exact spares_pure []
  | cons x xs ih =>
    rw [List.mapM_cons]
    refine .bind (each x List.mem_cons_self) fun y => .bind ?_ fun ys => spares_pure _
    exact ih fun z hz => each z (List.mem_cons_of_mem _ hz)

theorem spares_ofValue (heap : Heap) (room : Nat) (path : List ContainerId) (v : Value) :
    Spares (Literal.ofValue heap room path v) := by
  induction room generalizing path v with
  | zero => exact spares_pure _
  | succ room ih =>
    cases v with
    | container id =>
      simp only [Literal.ofValue]
      split
      next => exact spares_pure _
      next =>
        split
        next => exact .bind (spares_mapM fun v _ => ih _ v) fun _ => spares_pure _
        next => exact .bind (spares_mapM fun v _ => ih _ v) fun _ => spares_pure _
        next =>
          exact .bind (spares_mapM fun p _ => .bind (ih _ p.2) fun _ => spares_pure _)
            fun _ => spares_pure _
        next => exact spares_pure _
    | scope id => exact .bind (fun _ => rfl) fun _ => spares_pure _
    | script id => exact .bind (fun _ => rfl) fun _ => spares_pure _
    | snapshot id => exact .bind (fun _ => rfl) fun _ => spares_pure _
    | _ => exact spares_pure _

theorem spares_showEntry (heap : Heap) (e : Entry) : Spares (Dialogue.showEntry heap e) := by
  refine .bind (spares_ofValue _ _ _ _) fun _ => .bind ?_ fun _ => spares_pure _
  cases e.metadata with
  | none => exact spares_pure _
  | some m =>
    exact .bind (spares_mapM fun p _ => .bind (spares_ofValue _ _ _ _) fun _ => spares_pure _)
      fun _ => spares_pure _

theorem spares_showFrame (heap : Heap) (frame : Frame) : Spares (Dialogue.showFrame heap frame) :=
  .bind (spares_mapM fun e _ => spares_showEntry heap e) fun _ => spares_pure _

/-- The handle of a kept container leads to it. -/
theorem keep_spec (handles : Handles) (id : ContainerId) :
    (keep id handles).2.kept[(keep id handles).1]? = some id ∧
      ∀ other ∈ (keep id handles).2.kept, other ∈ handles.kept ∨ other = id := by
  show (number handles.kept id).2[(number handles.kept id).1]? = some id ∧
    ∀ other ∈ (number handles.kept id).2, other ∈ handles.kept ∨ other = id
  rw [number]
  split
  next n found =>
    obtain ⟨i, hi, rfl⟩ := Option.map_eq_some_iff.mp found
    have heq := (Array.finIdxOf?_eq_some_iff.mp hi).1
    exact ⟨Array.getElem?_eq_some_iff.mpr ⟨i.isLt, heq⟩, fun _ mem => Or.inl mem⟩
  next => exact ⟨Array.getElem?_push_size, fun _ mem => Array.mem_push.mp mem⟩

end Handles

/-! ## Dialogues -/

namespace Dialogue

variable {d d' : Dialogue} {keep : Bool} {r : Reply}

/-- Dialogues that can be had: literals are read, and operations are performed on containers that
are there. -/
inductive Reachable : Dialogue → Prop where
  | start (sources : Sources) : Reachable (start sources)
  | read {d d' : Dialogue} {l : Literal} {v : Value} (reachable : Reachable d)
    (read : d.read l = some (v, d')) : Reachable d'
  | perform {d : Dialogue} (reachable : Reachable d) {op : Op} (keep : Bool)
    (known : ∀ v ∈ op.operands, v.Below d.session.heap.cells.size) :
    Reachable (d.perform op keep).1

inductive Shows (d : Dialogue) (r : Reply) (d' : Dialogue) (kept : Option Nat) : Prop where
  /-- The reply is no value. -/
  | aside (session : d'.session = d.session) (handles : d'.handles.kept = d.handles.kept)
    (kept : kept = none)
  | value {v : Value} {heap : Heap} (made : r.toValue d.session.heap = some (v, heap))
    (session : d'.session = { d.session with heap })
    (handles : d'.handles.kept = d.handles.kept) (kept : kept = none)
  /-- The value of the reply is a container, which is kept. -/
  | keeps {id : ContainerId} {heap : Heap} {n : Nat}
    (made : r.toValue d.session.heap = some (.container id, heap)) (present : id < heap.cells.size)
    (session : d'.session = { d.session with heap }) (found : d'.handles.kept[n]? = some id)
    (handles : ∀ other ∈ d'.handles.kept, other ∈ d.handles.kept ∨ other = id)
    (kept : kept = some n)

theorem keepValue_cases (heap : Heap) (v : Value) (handles : Handles) :
    keepValue heap v handles = (none, handles) ∨ ∃ id, v = .container id ∧ id < heap.cells.size ∧
      keepValue heap v handles = (some (Handles.keep id handles).1, (Handles.keep id handles).2) := by
  cases v with
  | container id =>
    have hpresent : ∀ {c : Container}, heap.get? id = some c → id < heap.cells.size :=
      fun found => (Array.getElem?_eq_some_iff.mp found).1
    simp only [keepValue]
    rcases hget : heap.get? id with _ | (_ | _ | _)
    · exact Or.inl rfl
    · exact Or.inr ⟨id, rfl, hpresent hget, rfl⟩
    · exact Or.inl rfl
    · exact Or.inr ⟨id, rfl, hpresent hget, rfl⟩
  | _ => exact Or.inl rfl

theorem shows_showReply (d : Dialogue) (keep : Bool) (r : Reply) :
    d.Shows r (d.showReply keep r).1 (d.showReply keep r).2.2 := by
  have hvalue : ∀ {v : Value} {heap : Heap}, r.toValue d.session.heap = some (v, heap) →
      let shown := showValue heap v d.handles
      let kept := (if keep then keepValue heap v else pure none) shown.2
      d.Shows r ⟨{ d.session with heap }, kept.2⟩ kept.1 := by
    intro v heap made shown kept
    have hspared : shown.2.kept = d.handles.kept := Handles.spares_ofValue _ _ _ _ _
    cases keep with
    | false => exact .value made rfl hspared rfl
    | true =>
      have hkept : kept = keepValue heap v shown.2 := rfl
      rw [hkept]
      rcases keepValue_cases heap v shown.2 with heq | ⟨id, rfl, present, heq⟩
      · rw [heq]
        exact .value made rfl hspared rfl
      · rw [heq]
        obtain ⟨hfound, hothers⟩ := Handles.keep_spec shown.2 id
        rw [hspared] at hothers
        exact .keeps made present rfl hfound hothers rfl
  cases r with
  | frames fs =>
    exact .aside rfl (Handles.spares_mapM (fun f _ => Handles.spares_showFrame _ f) _) rfl
  | entry e => exact .aside rfl (Handles.spares_showEntry _ e _) rfl
  | _ => exact hvalue rfl

structure Sound (d : Dialogue) : Prop where
  sited : d.session.Sited
  closed : d.session.Closed
  kept : ∀ id ∈ d.handles.kept, id < d.session.heap.cells.size

theorem sound_start (sources : Sources) : (start sources).Sound := by
  have hnone : ∀ id, (Heap.mk #[]).get? id = none := fun id => Array.getElem?_eq_none (Nat.zero_le id)
  refine ⟨fun script mem => absurd mem (Array.not_mem_empty script), ⟨fun id c found => ?_,
    fun v stored => ?_⟩, fun id mem => absurd mem (Array.not_mem_empty id)⟩
  · exact nomatch (hnone id).symm.trans found
  · cases stored with
    | @bound b e mem value =>
      rw [show (start sources).session.forest.locals b = .empty from
        Forest.locals_of_le (Nat.zero_le b)] at mem
      exact absurd mem List.not_mem_nil
    | captured made => exact absurd made (Array.not_mem_empty _)
    | context made => exact absurd made (Array.not_mem_empty _)

theorem Sound.read (sound : d.Sound) {l : Literal} {v : Value} (read : d.read l = some (v, d')) :
    d'.Sound ∧ v.Below d'.session.heap.cells.size := by
  rw [Dialogue.read] at read
  split at read
  next u heap found =>
    cases read
    obtain ⟨hwithin, hclosed, hbelow⟩ := Literal.isRead_read l sound.closed.heap sound.kept found
    exact ⟨⟨sound.sited, sound.closed.grow hwithin hclosed, fun id mem =>
      Nat.lt_of_lt_of_le (sound.kept id mem) hwithin.size⟩, hbelow⟩
  next => cases read

theorem Shows.sound {kept : Option Nat} (shown : d.Shows r d' kept) (sound : d.Sound)
    (below : ∀ v ∈ r.values, v.Below d.session.heap.cells.size) : d'.Sound := by
  have hmade : ∀ {v : Value} {heap : Heap}, r.toValue d.session.heap = some (v, heap) →
      d'.session = { d.session with heap } →
      (∀ id ∈ d'.handles.kept, id < heap.cells.size) → d'.Sound := by
    intro v heap made session handles
    have hmade := Reply.isMade_toValue sound.closed.heap below made
    have hclosed := sound.closed.grow hmade.within hmade.parted.closed
    obtain ⟨_, _⟩ := d'
    cases session
    exact ⟨sound.sited, hclosed, handles⟩
  cases shown with
  | aside session handles =>
    obtain ⟨_, _⟩ := d'
    cases session
    refine ⟨sound.sited, sound.closed, fun id mem => sound.kept id ?_⟩
    exact handles ▸ mem
  | value made session handles =>
    have hwithin := (Reply.isMade_toValue sound.closed.heap below made).within
    refine hmade made session fun id mem => ?_
    rw [handles] at mem
    exact Nat.lt_of_lt_of_le (sound.kept id mem) hwithin.size
  | keeps made present session found handles =>
    have hwithin := (Reply.isMade_toValue sound.closed.heap below made).within
    refine hmade made session fun id mem => ?_
    rcases handles id mem with mem | rfl
    · exact Nat.lt_of_lt_of_le (sound.kept id mem) hwithin.size
    · exact present

theorem perform_cases (d : Dialogue) (op : Op) (keep : Bool) :
    (∃ e, (d.session.step op).2.answer = .error e ∧
      d.perform op keep = (⟨(d.session.step op).1, d.handles⟩,
        ⟨.error e, (d.session.step op).2.log.map Record.line, none⟩)) ∨
    ∃ r, (d.session.step op).2.answer = .ok r ∧
      d.perform op keep =
        let shown := (⟨(d.session.step op).1, d.handles⟩ : Dialogue).showReply keep r
        (shown.1, ⟨.ok shown.2.1, (d.session.step op).2.log.map Record.line, shown.2.2⟩) := by
  rw [perform]
  generalize d.session.step op = step
  obtain ⟨session, answer, log⟩ := step
  cases answer with
  | error e => exact Or.inl ⟨e, rfl, rfl⟩
  | ok r => exact Or.inr ⟨r, rfl, rfl⟩

theorem Sound.step (sound : d.Sound) {op : Op}
    (known : ∀ v ∈ op.operands, v.Below d.session.heap.cells.size) :
    (⟨(d.session.step op).1, d.handles⟩ : Dialogue).Sound where
  sited := sound.sited.step op
  closed := (Session.flows_step sound.sited op).closed sound.closed known
  kept id mem :=
    Nat.lt_of_lt_of_le (sound.kept id mem) (Session.flows_step sound.sited op).size

/-- What an operation answers is there after it. -/
theorem Sound.answers (sound : d.Sound) {op : Op}
    (known : ∀ v ∈ op.operands, v.Below d.session.heap.cells.size)
    (answered : (d.session.step op).2.answer = .ok r) :
    ∀ v ∈ r.values, v.Below (d.session.step op).1.heap.cells.size := fun v mem =>
  (sound.closed.answers sound.sited known answered v mem).mono
    (Session.flows_step sound.sited op).size

theorem Sound.perform (sound : d.Sound) {op : Op} (keep : Bool)
    (known : ∀ v ∈ op.operands, v.Below d.session.heap.cells.size) :
    (d.perform op keep).1.Sound := by
  rcases perform_cases d op keep with ⟨e, -, heq⟩ | ⟨r, answered, heq⟩
  · rw [heq]
    exact sound.step known
  · rw [heq]
    exact (shows_showReply _ keep r).sound (sound.step known) (sound.answers known answered)

theorem Reachable.sound (reachable : d.Reachable) : d.Sound := by
  induction reachable with
  | start sources => exact sound_start sources
  | read _ read ih => exact (ih.read read).1
  | perform _ keep known ih => exact ih.perform keep known

end Dialogue
end ScopeChain
