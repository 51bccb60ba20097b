/-
What is written of a chain of scopes.

A text says of each scope its variables, and of each variable its name, the tree of its
value and the members of its metadata.  Captured frames are written without double names
and doubles, on the levels that they were given, if all that they hold is steady, and
frames that spell out what is written are written so.
-/
import ScopeChain.Proofs.Snapshot.ValueTree

namespace ScopeChain

structure Written where
  name : String
  value : Json
  metadata : Option (List (String × Json))

namespace Written

def tree (w : Written) : Json :=
  .object [("name", .text w.name), ("value", w.value),
    ("meta", (w.metadata.map Json.object).getD .null)]

def Fits (room : Nat) (w : Written) : Prop :=
  w.value.levels ≤ room ∧ ∀ ms ∈ w.metadata, ∀ m ∈ ms, m.2.levels ≤ room

def chainTree : List (List Written) → Json
  | [] => .null
  | ws :: outer =>
    .object [("depth", .int outer.length), ("is_global", .bool outer.isEmpty),
      ("variables", .array (ws.map tree)), ("parent", chainTree outer)]

/-- Whether the variables of a chain fit, where each scope takes a level. -/
def FitsChain : Nat → List (List Written) → Prop
  | _, [] => True
  | 0, _ :: _ => False
  | room + 1, ws :: outer => (∀ w ∈ ws, w.Fits room) ∧ FitsChain room outer

end Written

def Entry.Denotes (h : Heap) (e : Entry) (w : Written) : Prop :=
  e.name = w.name ∧ h.Denotes e.value w.value ∧ Option.Rel h.DenotesMembers e.metadata w.metadata

def Entry.Spells (h : Heap) (e : Entry) (w : Written) : Prop :=
  e.name = w.name ∧ h.Spells e.value w.value ∧ Option.Rel h.SpellsMembers e.metadata w.metadata

theorem Entry.Denotes.spells {h : Heap} {e : Entry} {w : Written} (denoted : e.Denotes h w)
    (value : Json.Every Json.NotDouble w.value)
    (metadata : ∀ ms ∈ w.metadata, Json.Every Json.NotDouble (.object ms)) : e.Spells h w := by
  obtain ⟨hname, hvalue, hmetadata⟩ := denoted
  exact ⟨hname, hvalue.spells value, Listwise.rel_imp hmetadata fun _ _ ms hms h =>
    h.spells (metadata ms hms).2⟩

namespace Written

open Json (Every NamesDistinct NotDouble)

def Exact (j : Json) : Prop := Every NamesDistinct j ∧ Every NotDouble j

theorem exact_array {items : List Json} (h : ∀ x ∈ items, Exact x) : Exact (.array items) :=
  ⟨Json.every_array.mpr ⟨trivial, fun x hx => (h x hx).1⟩,
    Json.every_array.mpr ⟨trivial, fun x hx => (h x hx).2⟩⟩

theorem exact_object {members : List (String × Json)} (names : (members.map Prod.fst).Nodup)
    (h : ∀ m ∈ members, Exact m.2) : Exact (.object members) :=
  ⟨Json.every_object.mpr ⟨names, fun m hm => (h m hm).1⟩,
    Json.every_object.mpr ⟨trivial, fun m hm => (h m hm).2⟩⟩

def Distinct (w : Written) : Prop := ∀ ms ∈ w.metadata, (ms.map Prod.fst).Nodup

/-- A variable is sound if its value is exact and its metadata would be. -/
structure Sound (w : Written) : Prop where
  value : Exact w.value
  metadata : ∀ ms ∈ w.metadata, Exact (.object ms)

theorem Sound.exact {w : Written} (sound : w.Sound) : Exact w.tree := by
  refine exact_object (by simp) fun m hm => ?_
  simp only [List.mem_cons, List.not_mem_nil, or_false] at hm
  rcases hm with rfl | rfl | rfl
  · exact ⟨trivial, trivial⟩
  · exact sound.value
  · cases hmeta : w.metadata with
    | none => exact ⟨trivial, trivial⟩
    | some ms => exact sound.metadata ms hmeta

theorem exact_chainTree {wss : List (List Written)} (sound : ∀ ws ∈ wss, ∀ w ∈ ws, w.Sound) :
    Exact (chainTree wss) := by
  induction wss with
  | nil => exact ⟨trivial, trivial⟩
  | cons ws outer ih =>
    refine exact_object (by simp) fun m hm => ?_
    simp only [List.mem_cons, List.not_mem_nil, or_false] at hm
    rcases hm with rfl | rfl | rfl | rfl
    · exact ⟨trivial, trivial⟩
    · exact ⟨trivial, trivial⟩
    · refine exact_array fun j hj => ?_
      obtain ⟨w, hw, rfl⟩ := List.mem_map.mp hj
      exact (sound ws List.mem_cons_self w hw).exact
    · exact ih fun us hus => sound us (List.mem_cons_of_mem _ hus)

theorem distinct_of_chainTree {wss : List (List Written)}
    (distinct : Every NamesDistinct (chainTree wss)) : ∀ ws ∈ wss, ∀ w ∈ ws, w.Distinct := by
  induction wss with
  | nil => exact fun _ hws => absurd hws List.not_mem_nil
  | cons ws outer ih =>
    have hmembers := (Json.every_object.mp distinct).2
    have hvariables : Every NamesDistinct (.array (ws.map tree)) :=
      hmembers ("variables", .array (ws.map tree)) (by simp)
    intro us hus w hw ms hms
    rcases List.mem_cons.mp hus with rfl | hus
    · have htree := (Json.every_array.mp hvariables).2 _ (List.mem_map_of_mem hw)
      have hmeta := (Json.every_object.mp htree).2 ("meta", (w.metadata.map Json.object).getD .null)
        (by simp)
      rw [Option.mem_def.mp hms] at hmeta
      exact (Json.every_object.mp hmeta).1
    · exact ih (hmembers ("parent", chainTree outer) (by simp)) us hus w hw ms hms

theorem levels_tree {room : Nat} {w : Written} (fits : w.Fits room) :
    w.tree.levels ≤ room + 3 := by
  have hvalue := fits.1
  refine Json.levels_object_le.mpr fun m hm => ?_
  simp only [List.mem_cons, List.not_mem_nil, or_false] at hm
  rcases hm with rfl | rfl | rfl
  · simp [Json.levels]
  · exact Nat.le_add_right_of_le hvalue
  · cases hmeta : w.metadata with
    | none => simp [Json.levels]
    | some ms =>
      refine Json.levels_object_le.mpr fun m hm => ?_
      have := fits.2 ms hmeta m hm
      omega

theorem levels_chainTree_lt (ws : List Written) (outer : List (List Written)) :
    (chainTree outer).levels < (chainTree (ws :: outer)).levels := by
  refine Nat.lt_succ_of_le ?_
  exact Json.memberLevels_le.mp (Nat.le_refl _) ("parent", chainTree outer) (by simp)

/-- The tree of a chain has some levels more than it was counted, for the lists of variables,
the variables and their metadata. -/
theorem levels_chainTree {room : Nat} {wss : List (List Written)} (fits : FitsChain room wss) :
    (chainTree wss).levels ≤ room + 4 := by
  induction wss generalizing room with
  | nil => simp [chainTree, Json.levels]
  | cons ws outer ih =>
    cases room with
    | zero => exact fits.elim
    | succ room =>
      refine Json.levels_object_le.mpr fun m hm => ?_
      simp only [List.mem_cons, List.not_mem_nil, or_false] at hm
      rcases hm with rfl | rfl | rfl | rfl
      · simp [Json.levels]
      · simp [Json.levels]
      · refine Json.levels_array_le.mpr fun j hj => ?_
        obtain ⟨w, hw, rfl⟩ := List.mem_map.mp hj
        exact levels_tree (fits.1 w hw)
      · exact ih fits.2

end Written

namespace Snapshot

open Json (Every NamesDistinct NotDouble)

/-- Frames as a chain has them: each is as deep as there are frames behind it, and the last
is global. -/
def Shaped : List Frame → Prop
  | [] => True
  | frame :: outer =>
    frame.depth = outer.length ∧ frame.isGlobal = outer.isEmpty ∧ Shaped outer

def IsWritten (tree : Value → Except Refusal Json) (e : Entry) (w : Written) : Prop :=
  e.name = w.name ∧ tree e.value = .ok w.value ∧
    Option.Rel (fun m ms => memberTrees tree [] m = .ok ms) e.metadata w.metadata

theorem entryTree_eq_ok {tree : Value → Except Refusal Json} {e : Entry} {j : Json} :
    entryTree tree e = .ok j ↔ ∃ w, IsWritten tree e w ∧ j = w.tree := by
  obtain ⟨name, value, metadata⟩ := e
  constructor
  · intro h
    rw [entryTree] at h
    split at h
    next => cases h
    next k hk =>
      cases metadata with
      | none =>
        cases h
        exact ⟨⟨name, k, none⟩, ⟨rfl, hk, .none⟩, rfl⟩
      | some m =>
        simp only at h
        split at h
        next => cases h
        next ms hms =>
          cases h
          exact ⟨⟨name, k, some ms⟩, ⟨rfl, hk, .some hms⟩, rfl⟩
  · rintro ⟨⟨wname, wvalue, wmetadata⟩, ⟨hname, hvalue, hmetadata⟩, rfl⟩
    cases hname
    rw [entryTree, hvalue]
    cases hmetadata with
    | none => rfl
    | some hms =>
      simp only [hms]
      rfl

theorem entryTrees_eq_ok {tree : Value → Except Refusal Json} {es : List Entry}
    {js : List Json} :
    entryTrees tree es = .ok js ↔
      ∃ ws, List.Forall₂ (IsWritten tree) es ws ∧ js = ws.map Written.tree := by
  induction es generalizing js with
  | nil =>
    rw [entryTrees]
    constructor
    · rintro h
      cases h
      exact ⟨[], .nil, rfl⟩
    · rintro ⟨ws, hws, rfl⟩
      cases hws
      rfl
  | cons e rest ih =>
    constructor
    · intro h
      rw [entryTrees] at h
      split at h
      next => cases h
      next j hj =>
        split at h
        next js hjs =>
          cases h
          obtain ⟨w, hw, rfl⟩ := entryTree_eq_ok.mp hj
          obtain ⟨ws, hws, rfl⟩ := ih.mp hjs
          exact ⟨w :: ws, .cons hw hws, rfl⟩
        next => cases h
    · rintro ⟨ws, hws, rfl⟩
      cases hws with
      | cons hw hws =>
        rw [entryTrees, entryTree_eq_ok.mpr ⟨_, hw, rfl⟩, ih.mpr ⟨_, hws, rfl⟩]
        rfl

def IsWrittenChain (heap : Heap) (snapshots : Array Snapshot) :
    Nat → List Frame → List (List Written) → Prop
  | _, [], [] => True
  | room + 1, frame :: outer, ws :: wss =>
    List.Forall₂ (IsWritten (valueTree heap snapshots room [])) frame.entries ws ∧
      IsWrittenChain heap snapshots room outer wss
  | _, _, _ => False

theorem levels_of_isWrittenChain {heap : Heap} {snapshots : Array Snapshot} {room : Nat}
    {frames : List Frame} {wss : List (List Written)}
    (h : IsWrittenChain heap snapshots room frames wss) :
    frames.length ≤ room ∧ List.Forall₂ (fun frame ws =>
      ∃ n, List.Forall₂ (IsWritten (valueTree heap snapshots n [])) frame.entries ws) frames wss := by
  induction frames generalizing room wss with
  | nil =>
    cases wss with
    | nil => exact ⟨Nat.zero_le _, .nil⟩
    | cons ws wss => simp [IsWrittenChain] at h
  | cons frame outer ih =>
    cases room with
    | zero => simp [IsWrittenChain] at h
    | succ room =>
      cases wss with
      | nil => simp [IsWrittenChain] at h
      | cons ws wss =>
        obtain ⟨hlength, hall⟩ := ih h.2
        exact ⟨Nat.succ_le_succ hlength, .cons ⟨room, h.1⟩ hall⟩

theorem names_of_isWrittenChain {heap : Heap} {snapshots : Array Snapshot} {room : Nat}
    {frames : List Frame} {wss : List (List Written)}
    (h : IsWrittenChain heap snapshots room frames wss) :
    List.Forall₂ (fun frame ws => frame.entries.map Entry.name = ws.map Written.name)
      frames wss :=
  (levels_of_isWrittenChain h).2.imp fun _ _ ⟨_, hall⟩ =>
    Listwise.map_eq hall fun _ _ _ _ hew => hew.1

theorem length_of_isWrittenChain {heap : Heap} {snapshots : Array Snapshot} {room : Nat}
    {frames : List Frame} {wss : List (List Written)}
    (h : IsWrittenChain heap snapshots room frames wss) : frames.length = wss.length :=
  (names_of_isWrittenChain h).length_eq

/-- Frames that belong to no snapshot are written one inside the other. -/
theorem framesTree_cons (heap : Heap) (snapshots : Array Snapshot) (room : Nat) (frame : Frame)
    (outer : List Frame) :
    framesTree heap snapshots (room + 1) [] none (frame :: outer) =
      match entryTrees (valueTree heap snapshots room []) frame.entries with
      | .error r => .error r
      | .ok members =>
        match framesTree heap snapshots room [] none outer with
        | .ok parent => .ok (frameTree frame members parent)
        | .error r => .error r := by
  rw [framesTree]
  rfl

theorem framesTree_eq_ok {heap : Heap} {snapshots : Array Snapshot} {room : Nat}
    {frames : List Frame} (shaped : Shaped frames) {j : Json} :
    framesTree heap snapshots room [] none frames = .ok j ↔
      ∃ wss, IsWrittenChain heap snapshots room frames wss ∧ j = Written.chainTree wss := by
  induction frames generalizing room j with
  | nil =>
    rw [framesTree]
    constructor
    · rintro h
      cases h
      exact ⟨[], by rw [IsWrittenChain]; trivial, rfl⟩
    · rintro ⟨wss, hwss, rfl⟩
      cases wss with
      | nil => rfl
      | cons ws wss => simp [IsWrittenChain] at hwss
  | cons frame outer ih =>
    obtain ⟨hdepth, hglobal, hshaped⟩ := shaped
    have frameTree_eq : ∀ {ws : List Written} {wss : List (List Written)},
        outer.length = wss.length →
          frameTree frame (ws.map Written.tree) (Written.chainTree wss) =
            Written.chainTree (ws :: wss) := by
      intro ws wss hlength
      rw [frameTree, hdepth, hglobal, hlength, Listwise.isEmpty_congr hlength]
      rfl
    cases room with
    | zero =>
      rw [framesTree]
      constructor
      · intro h
        cases h
      · rintro ⟨wss, hwss, -⟩
        simp [IsWrittenChain] at hwss
    | succ room =>
      rw [framesTree_cons]
      constructor
      · intro h
        split at h
        next => cases h
        next members hmembers =>
          split at h
          next parent hparent =>
            cases h
            obtain ⟨ws, hws, rfl⟩ := entryTrees_eq_ok.mp hmembers
            obtain ⟨wss, hwss, rfl⟩ := (ih hshaped).mp hparent
            exact ⟨ws :: wss, ⟨hws, hwss⟩, frameTree_eq (length_of_isWrittenChain hwss)⟩
          next => cases h
      · rintro ⟨wss, hwss, rfl⟩
        cases wss with
        | nil => simp [IsWrittenChain] at hwss
        | cons ws wss =>
          obtain ⟨hws, hwss⟩ := hwss
          rw [entryTrees_eq_ok.mpr ⟨ws, hws, rfl⟩, (ih hshaped).mpr ⟨wss, hwss, rfl⟩]
          exact congrArg Except.ok (frameTree_eq (length_of_isWrittenChain hwss))

/-! ## What is written of steady frames -/

theorem sound_of_isWritten {heap : Heap} {snapshots : Array Snapshot} {room : Nat} {e : Entry}
    {w : Written} (steady : e.Steady heap)
    (h : IsWritten (valueTree heap snapshots room []) e w) : w.Sound ∧ w.Fits room := by
  obtain ⟨-, hvalue, hmetadata⟩ := h
  obtain ⟨hdistinct, hplain, hlevels⟩ := valueTree_steady steady.1 hvalue
  have hmembers : ∀ ms ∈ w.metadata, Written.Exact (.object ms) ∧ ∀ m ∈ ms, m.2.levels ≤ room := by
    intro ms hms
    rw [Option.mem_def.mp hms] at hmetadata
    generalize hm : e.metadata = metadata at hmetadata
    cases hmetadata with
    | some htrees =>
      obtain ⟨hnames, hfrom⟩ := memberTrees_spec htrees
      have hall : ∀ m ∈ ms, Written.Exact m.2 ∧ m.2.levels ≤ room := by
        intro m hmem
        rcases hfrom m hmem with hmem | ⟨p, hp, htree⟩
        · cases hmem
        · obtain ⟨hd, hn, hl⟩ := valueTree_steady (steady.2 _ hm p hp) htree
          exact ⟨⟨hd, hn⟩, hl⟩
      exact ⟨Written.exact_object (hnames List.nodup_nil) fun m hm => (hall m hm).1,
        fun m hm => (hall m hm).2⟩
  exact ⟨⟨⟨hdistinct, hplain⟩, fun ms hms => (hmembers ms hms).1⟩, hlevels,
    fun ms hms => (hmembers ms hms).2⟩

theorem sound_of_isWrittenChain {heap : Heap} {snapshots : Array Snapshot} {room : Nat}
    {frames : List Frame} {wss : List (List Written)}
    (steady : ∀ frame ∈ frames, ∀ e ∈ frame.entries, e.Steady heap)
    (h : IsWrittenChain heap snapshots room frames wss) :
    (∀ ws ∈ wss, ∀ w ∈ ws, w.Sound) ∧ Written.FitsChain room wss := by
  induction frames generalizing room wss with
  | nil =>
    cases wss with
    | nil => exact ⟨fun _ hws => absurd hws List.not_mem_nil, by simp [Written.FitsChain]⟩
    | cons ws wss => simp [IsWrittenChain] at h
  | cons frame outer ih =>
    cases room with
    | zero => simp [IsWrittenChain] at h
    | succ room =>
      cases wss with
      | nil => simp [IsWrittenChain] at h
      | cons ws wss =>
        obtain ⟨hsound, hfits⟩ := ih (fun f hf => steady f (List.mem_cons_of_mem _ hf)) h.2
        have hws : ∀ w ∈ ws, w.Sound ∧ w.Fits room := by
          intro w hw
          obtain ⟨e, he, hew⟩ := Listwise.exists_left h.1 hw
          exact sound_of_isWritten (steady frame List.mem_cons_self e he) hew
        refine ⟨fun us hus => ?_, fun w hw => (hws w hw).2, hfits⟩
        rcases List.mem_cons.mp hus with rfl | hus
        · exact fun w hw => (hws w hw).1
        · exact hsound us hus

/-! ## Variables that spell out what is written -/

theorem isWritten_of_spells {heap : Heap} (snapshots : Array Snapshot) {room : Nat} {e : Entry}
    {w : Written} (spelled : e.Spells heap w) (sound : w.Sound) (fits : w.Fits room) :
    IsWritten (valueTree heap snapshots room []) e w := by
  obtain ⟨hname, hvalue, hmetadata⟩ := spelled
  have houtside : ∀ {j : Json}, ∀ node ∈ ([] : List Node), ∃ id k, node = .container id ∧
      heap.Spells (.container id) k ∧ j.levels < k.levels := by
    intro j node hnode
    cases hnode
  refine ⟨hname, valueTree_of_spells snapshots hvalue sound.value.1 fits.1 houtside, ?_⟩
  generalize hm : e.metadata = metadata at hmetadata ⊢
  generalize hms : w.metadata = members at hmetadata ⊢
  cases hmetadata with
  | none => exact .none
  | @some m ms hspelled =>
    obtain ⟨hdistinct, -⟩ := sound.metadata ms hms
    obtain ⟨hnames, hevery⟩ := Json.every_object.mp hdistinct
    refine .some
      (memberTrees_texts [] (Listwise.imp (Heap.spellsMembers_iff.mp hspelled) ?_) hnames)
    intro p _ q hq hpq
    exact ⟨hpq.1, valueTree_of_spells snapshots hpq.2 (hevery q hq) (fits.2 ms hms q hq) houtside⟩

theorem isWrittenChain_of_spells {heap : Heap} (snapshots : Array Snapshot) {room : Nat}
    {frames : List Frame} {wss : List (List Written)}
    (spelled : List.Forall₂ (fun frame ws => List.Forall₂ (Entry.Spells heap) frame.entries ws)
      frames wss)
    (sound : ∀ ws ∈ wss, ∀ w ∈ ws, w.Sound) (fits : Written.FitsChain room wss) :
    IsWrittenChain heap snapshots room frames wss := by
  induction spelled generalizing room with
  | nil => rw [IsWrittenChain]; trivial
  | cons hws _ ih =>
    cases room with
    | zero => exact fits.elim
    | succ room =>
      refine ⟨Listwise.imp hws fun e _ w hw hew => ?_,
        ih (fun us hus => sound us (List.mem_cons_of_mem _ hus)) fits.2⟩
      exact isWritten_of_spells snapshots hew (sound _ List.mem_cons_self w hw) (fits.1 w hw)

/-- A variable that spells out something is written as nothing else. -/
theorem eq_of_isWritten {heap : Heap} {snapshots : Array Snapshot} {room : Nat} {e : Entry}
    {w u : Written} (spelled : e.Spells heap w) (sound : w.Sound)
    (h : IsWritten (valueTree heap snapshots room []) e u) : u = w := by
  obtain ⟨ename, evalue, metadata⟩ := e
  obtain ⟨name, value, members⟩ := w
  obtain ⟨uname, uvalue, found⟩ := u
  obtain ⟨rfl, hvalue, hmetadata⟩ := spelled
  obtain ⟨hname, htree, htrees⟩ := h
  have hval : uvalue = value := eq_of_valueTree hvalue sound.value.1 htree
  have hmem : found = members := by
    simp only at hmetadata htrees
    cases hmetadata with
    | none =>
      cases htrees
      rfl
    | @some m ms hspelled =>
      obtain ⟨hnames, hevery⟩ := Json.every_object.mp (sound.metadata ms rfl).1
      cases htrees with
      | some hms =>
        rw [eq_of_memberTrees (Listwise.imp (Heap.spellsMembers_iff.mp hspelled)
          fun p _ q hq hpq => ⟨hpq.1, fun k hk => eq_of_valueTree hpq.2 (hevery q hq) hk⟩)
          hnames hms]
  simp only at hname
  rw [hval, hmem, hname]

theorem eq_of_isWrittenChain {heap : Heap} {snapshots : Array Snapshot} {room : Nat}
    {frames : List Frame} {wss uss : List (List Written)}
    (spelled : List.Forall₂ (fun frame ws => List.Forall₂ (Entry.Spells heap) frame.entries ws)
      frames wss)
    (sound : ∀ ws ∈ wss, ∀ w ∈ ws, w.Sound)
    (h : IsWrittenChain heap snapshots room frames uss) : uss = wss := by
  induction spelled generalizing room uss with
  | nil =>
    cases uss with
    | nil => rfl
    | cons us uss => simp [IsWrittenChain] at h
  | @cons frame ws frames wss hws _ ih =>
    cases room with
    | zero => simp [IsWrittenChain] at h
    | succ room =>
      cases uss with
      | nil => simp [IsWrittenChain] at h
      | cons us uss =>
        have hus := Listwise.eq_of_both (f := fun w => w) h.1 hws fun e _ u _ w hw heu hew =>
          eq_of_isWritten hew (sound ws List.mem_cons_self w hw) heu
        rw [hus, List.map_id', ih (fun vs hvs => sound vs (List.mem_cons_of_mem _ hvs)) h.2]

end Snapshot
end ScopeChain
