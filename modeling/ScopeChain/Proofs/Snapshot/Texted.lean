/-
What is captured of metadata keys.

A key that spells a text is captured as that text, whether it is one or bytes.  Of keys that
become equal the first place and the last value are kept.  A key that spells none is refused,
and nothing else is.
-/
import ScopeChain.Proofs.Snapshot.Capture
import ScopeChain.Proofs.Snapshot.Described

namespace ScopeChain

/-- The text that a key spells: the key itself, or what its bytes are in UTF-8. -/
def Key.text? : Key → Option String
  | .text s => some s
  | .bytes bs => Utf8.text? bs
  | _ => none

theorem Coerce.keyText_eq_ok {k : Key} {s : String} :
    keyText k = .ok s ↔ k.text? = some s := by
  cases k with
  | text t => simp [keyText, Key.text?]
  | bytes bs =>
    simp only [keyText, bytesText, Key.text?]
    cases Utf8.text? bs <;> simp
  | _ => simp [keyText, Key.text?]

def textPair? (p : Key × Value) : Option (Key × Value) := p.1.text?.map fun s => (.text s, p.2)

/-- Metadata with the texts that its keys spell for keys. -/
def Metadata.withTexts (m : Metadata) : Metadata := dictOf (m.filterMap textPair?)

def Entry.withTexts (e : Entry) : Entry := { e with metadata := e.metadata.map .withTexts }

namespace Snapshot

/-! ## Metadata -/

theorem checkKeys_eq_ok {m pairs : Metadata} :
    checkKeys m = .ok pairs ↔ KeysReadable m ∧ pairs = m.filterMap textPair? := by
  suffices h : ∀ {pairs}, checkKeys m = .ok pairs → pairs = m.filterMap textPair? by
    refine ⟨fun hok => ⟨checkKeys_isOk.mp ⟨_, hok⟩, h hok⟩, fun ⟨readable, heq⟩ => ?_⟩
    obtain ⟨found, hfound⟩ := checkKeys_isOk.mpr readable
    rw [hfound, h hfound, heq]
  induction m with
  | nil =>
    intro pairs h
    cases h
    rfl
  | cons p rest ih =>
    intro pairs h
    obtain ⟨k, v⟩ := p
    rw [checkKeys] at h
    split at h
    next s found hk hrest =>
      cases h
      have htext : textPair? (k, v) = some (.text s, v) := by
        rw [textPair?, Coerce.keyText_eq_ok.mp hk]
        rfl
      rw [List.filterMap_cons_some htext, ih hrest]
    next => cases h
    next => cases h

theorem checkMetadata_eq_ok {m checked : Metadata} :
    checkMetadata m = .ok checked ↔ KeysReadable m ∧ checked = m.withTexts := by
  rw [← checkKeys_isOk, checkMetadata]
  cases hkeys : checkKeys m with
  | error fs => simp
  | ok pairs =>
    rw [Metadata.withTexts, ← (checkKeys_eq_ok.mp hkeys).2]
    simp [dictOf, eq_comm]

theorem keysText_withTexts (m : Metadata) : KeysText m.withTexts := by
  intro p hp
  obtain ⟨d, hd, hkey⟩ := (mem_dictOf hp).1
  obtain ⟨q, -, hq⟩ := List.mem_filterMap.mp hd
  obtain ⟨s, -, rfl⟩ := Option.map_eq_some_iff.mp hq
  exact ⟨s, hkey.symm⟩

/-- Metadata with distinct keys is the same with texts for them exactly if they are texts. -/
theorem withTexts_eq_self {m : Metadata} (distinct : KeysDistinct m) :
    m.withTexts = m ↔ KeysText m := by
  constructor
  · intro h
    rw [← h]
    exact keysText_withTexts m
  · intro texts
    exact (checkMetadata_eq_ok.mp (checkMetadata_of_text texts distinct)).2.symm

def Unspelled (m : Metadata) (fault : Fault) : Prop :=
  ∃ p ∈ m, p.1.text? = none ∧ fault.place = [.key p.1]

theorem unspelled_of_checkKeys {m : Metadata} {fault : Fault}
    (found : fault ∈ (checkKeys m).faults) : Unspelled m fault := by
  induction m with
  | nil => cases found
  | cons p rest ih =>
    obtain ⟨k, v⟩ := p
    have hrest : fault ∈ (checkKeys rest).faults → Unspelled ((k, v) :: rest) fault := fun h =>
      let ⟨q, hq, hnone, hplace⟩ := ih h
      ⟨q, List.mem_cons_of_mem _ hq, hnone, hplace⟩
    rw [checkKeys] at found
    split at found
    next => cases found
    next hkeys =>
      rw [hkeys] at hrest
      exact hrest found
    next issue hk =>
      rcases List.mem_cons.mp found with rfl | found
      · refine ⟨(k, v), List.mem_cons_self, Option.eq_none_iff_forall_ne_some.mpr fun s hs => ?_,
          rfl⟩
        cases hk.symm.trans (Coerce.keyText_eq_ok.mpr hs)
      · exact hrest found

theorem checkKeys_ne_nil {m : Metadata} {faults : List Fault}
    (refused : checkKeys m = .error faults) : faults ≠ [] := by
  induction m with
  | nil => cases refused
  | cons p rest ih =>
    rw [checkKeys] at refused
    split at refused
    next => cases refused
    next fs _ hrest =>
      cases refused
      exact ih hrest
    next =>
      cases refused
      exact List.cons_ne_nil _ _

/-! ## Variables and chains -/

theorem captureEntry_eq_ok {e c : Entry} :
    captureEntry e = .ok c ↔ (∀ m ∈ e.metadata, KeysReadable m) ∧ c = e.withTexts := by
  obtain ⟨name, value, metadata⟩ := e
  cases metadata with
  | none => simp [captureEntry, Entry.withTexts, eq_comm]
  | some m =>
    rw [captureEntry]
    simp only [Option.mem_some_iff, forall_eq', Entry.withTexts, Option.map_some]
    cases hm : checkMetadata m with
    | error fs =>
      have hunread : ¬ KeysReadable m := fun readable => by
        obtain ⟨checked, hok⟩ := checkMetadata_isOk.mpr readable
        cases hm.symm.trans hok
      simp [hunread]
    | ok checked =>
      obtain ⟨hread, rfl⟩ := checkMetadata_eq_ok.mp hm
      simp [hread, eq_comm]

theorem captureEntries_eq_map {es cs : List Entry} (captured : captureEntries es = .ok cs) :
    (∀ e ∈ es, ∀ m ∈ e.metadata, KeysReadable m) ∧ cs = es.map Entry.withTexts := by
  have hall := captureEntries_eq_ok.mp captured
  refine ⟨fun e he => ?_, ?_⟩
  · obtain ⟨c, -, hc⟩ := Listwise.exists_right hall he
    exact (captureEntry_eq_ok.mp hc).1
  · rw [← List.map_id cs]
    exact (Listwise.map_eq hall fun e _ c _ hc => (captureEntry_eq_ok.mp hc).2.symm).symm

theorem metadata?_of_captured {l k : Locals} (captured : captureEntries l.entries = .ok k.entries)
    (name : String) : k.metadata? name = (l.metadata? name).map .withTexts := by
  rw [Locals.metadata?, Locals.find?, (captureEntries_eq_map captured).2, List.find?_map,
    Locals.metadata?, Locals.find?]
  show Option.bind (Option.map _ (l.entries.find? (·.name == name))) _ = _
  cases l.entries.find? (·.name == name) <;> rfl

/-! ## Refusals -/

def Blames (e : Entry) (fault : Fault) : Prop :=
  ∃ m ∈ e.metadata, ∃ p ∈ m, p.1.text? = none ∧ fault.place = [.field "meta", .key p.1]

theorem blames_of_captureEntry {e : Entry} {faults : List Fault}
    (refused : captureEntry e = .error faults) :
    faults ≠ [] ∧ ∀ fault ∈ faults, Blames e fault := by
  rw [captureEntry] at refused
  split at refused
  next => cases refused
  next m hm =>
    rw [checkMetadata] at refused
    cases hkeys : checkKeys m with
    | ok pairs =>
      rw [hkeys] at refused
      cases refused
    | error fs =>
      rw [hkeys] at refused
      cases refused
      refine ⟨fun h => checkKeys_ne_nil hkeys (List.map_eq_nil_iff.mp h), fun fault hfault => ?_⟩
      obtain ⟨inner, hinner, rfl⟩ := List.mem_map.mp hfault
      obtain ⟨p, hp, hnone, hplace⟩ := unspelled_of_checkKeys (m := m) (by rw [hkeys]; exact hinner)
      exact ⟨m, hm, p, hp, hnone, congrArg (Place.field "meta" :: ·) hplace⟩

theorem captureEntries_eq_error {es : List Entry} {faults : List Fault}
    (refused : captureEntries es = .error faults) : ∃ e ∈ es, captureEntry e = .error faults := by
  induction es with
  | nil => cases refused
  | cons e rest ih =>
    rw [captureEntries] at refused
    split at refused
    next fs he =>
      cases refused
      exact ⟨e, List.mem_cons_self, he⟩
    next =>
      split at refused
      next => cases refused
      next fs hrest =>
        cases refused
        obtain ⟨d, hd, hfound⟩ := ih hrest
        exact ⟨d, List.mem_cons_of_mem _ hd, hfound⟩

/-- A chain that can not be captured has a variable that can not, and the findings are those about
the variable. -/
theorem capture_eq_error {f : Forest} {b : ScopeId} {faults : List Fault}
    (refused : capture f b = .error faults) :
    ∃ d ∈ f.chain b, ∃ e ∈ (f.locals d).entries, captureEntry e = .error faults := by
  induction b using Nat.strongRecOn with
  | _ b ih =>
    have hown : ∀ {next : List Entry → Snapshot},
        (captureEntries (f.locals b).entries).map next = .error faults →
          ∃ e ∈ (f.locals b).entries, captureEntry e = .error faults := by
      intro next refused
      cases hentries : captureEntries (f.locals b).entries with
      | error fs =>
        rw [hentries] at refused
        cases refused
        exact captureEntries_eq_error hentries
      | ok found => rw [hentries] at refused; cases refused
    cases h : f.parent? b with
    | none =>
      rw [capture_of_global h] at refused
      exact ⟨b, Forest.mem_chain_self f b, hown refused⟩
    | some p =>
      rw [capture_of_parent h] at refused
      cases hp : capture f p with
      | error fs =>
        rw [hp] at refused
        cases refused
        obtain ⟨d, hd, hfound⟩ := ih p (Forest.lt_of_parent? h) hp
        rw [Forest.chain_of_parent h]
        exact ⟨d, List.mem_cons_of_mem _ hd, hfound⟩
      | ok t =>
        rw [hp] at refused
        exact ⟨b, Forest.mem_chain_self f b, hown refused⟩

end Snapshot
end ScopeChain
