/-
What a session stores.

A session stores the values that are bound in its scopes, those in its snapshots, the values of
all metadata there, and the contexts of scripts.  An operation adds the values that it is given
to be bound, and of dicts and lists that describe metadata, variables or scopes only the values
inside.  So a container that only passed such values is not referred to.
-/
import ScopeChain.Proofs.Session.Endings
import ScopeChain.Proofs.Session.Lasting
import ScopeChain.Proofs.Snapshot.Taken
import ScopeChain.Proofs.Value.Changed

namespace ScopeChain

/-! ## Variables -/

theorem Entry.mem_values {e : Entry} {v : Value} :
    v ∈ e.values ↔ v = e.value ∨ ∃ m ∈ e.metadata, v ∈ m.map Prod.snd := by
  obtain ⟨name, value, metadata⟩ := e
  cases metadata <;> simp [values]

theorem Entry.value_of_mem_insert {name : String} {value : Value} {metadata : Option Metadata}
    {entries : List Entry} {e : Entry} (h : e ∈ insert name value metadata entries) :
    e.value = value ∨ ∃ d ∈ entries, e.value = d.value := by
  induction entries with
  | nil =>
    rw [insert, List.mem_singleton] at h
    exact Or.inl (by rw [h])
  | cons d rest ih =>
    simp only [insert] at h
    split at h
    next =>
      rcases List.mem_cons.mp h with rfl | h
      · exact Or.inl rfl
      · exact Or.inr ⟨e, h, rfl⟩
    next =>
      split at h
      next =>
        rcases List.mem_cons.mp h with rfl | h
        · exact Or.inl rfl
        · exact Or.inr ⟨e, List.mem_cons_of_mem _ h, rfl⟩
      next =>
        rcases List.mem_cons.mp h with rfl | h
        · exact Or.inr ⟨e, List.mem_cons_self, rfl⟩
        · refine (ih h).imp_right ?_
          rintro ⟨c, hc, hvalue⟩
          exact ⟨c, List.mem_cons_of_mem _ hc, hvalue⟩

namespace Write

def values (w : Write) : List Value := Entry.values ⟨w.name, w.value, w.metadata⟩

theorem values_of_replay {b : ScopeId} {ws : List Write} {l : Locals} {e : Entry} {v : Value}
    (he : e ∈ (replay b ws l).entries) (mem : v ∈ e.values) :
    (∃ d ∈ l.entries, v ∈ d.values) ∨ ∃ w ∈ ws, v ∈ w.values := by
  induction ws generalizing l with
  | nil => exact Or.inl ⟨e, he, mem⟩
  | cons w ws ih =>
    rcases ih he with ⟨d, hd, hv⟩ | ⟨u, hu, hv⟩
    · rw [apply] at hd
      split at hd
      next =>
        rcases Entry.mem_values.mp hv with rfl | ⟨m, hm, hv⟩
        · rcases Entry.value_of_mem_insert hd with hvalue | ⟨c, hc, hvalue⟩
          · exact Or.inr ⟨w, List.mem_cons_self, Entry.mem_values.mpr (Or.inl hvalue)⟩
          · exact Or.inl ⟨c, hc, Entry.mem_values.mpr (Or.inl hvalue)⟩
        · rcases Entry.metadata_of_mem_insert hd m hm with hnew | ⟨c, hc, hmc⟩
          · exact Or.inr ⟨w, List.mem_cons_self, Entry.mem_values.mpr (Or.inr ⟨m, hnew, hv⟩)⟩
          · exact Or.inl ⟨c, hc, Entry.mem_values.mpr (Or.inr ⟨m, hmc, hv⟩)⟩
      next => exact Or.inl ⟨d, hd, hv⟩
    · exact Or.inr ⟨u, List.mem_cons_of_mem _ hu, hv⟩

end Write

theorem Snapshot.values_of_frameWrites {base : ScopeId} {frames : List Frame} {w : Write}
    {v : Value} (hw : w ∈ frameWrites base frames) (mem : v ∈ w.values) :
    ∃ frame ∈ frames, ∃ e ∈ frame.entries, v ∈ e.values := by
  induction frames with
  | nil => exact absurd hw List.not_mem_nil
  | cons frame outer ih =>
    rcases List.mem_append.mp hw with hw | hw
    · obtain ⟨other, hother, rest⟩ := ih hw
      exact ⟨other, List.mem_cons_of_mem _ hother, rest⟩
    · obtain ⟨e, he, rfl⟩ := List.mem_map.mp hw
      exact ⟨frame, List.mem_cons_self, e, he, mem⟩

/-- The values of a reply that are not of its own making. -/
def Reply.values : Reply → List Value
  | .value v => [v]
  | .metadata m => m.map Prod.snd
  | .items entries => entries.flatMap Entry.values
  | .frames fs => fs.flatMap fun frame => frame.entries.flatMap Entry.values
  | .entry e => e.values
  | _ => []

theorem Reply.values_of_scope {a : Reply} (kind : a.kind ∈ [Reply.Kind.scope]) :
    a.values = [] := by
  have hkind := List.mem_singleton.mp kind
  cases a <;> first | rfl | cases hkind

namespace Session

variable {s t : Session} {v : Value} {id : ContainerId}

inductive Stores (s : Session) (v : Value) : Prop where
  | bound {b : ScopeId} {e : Entry} (mem : e ∈ (s.forest.locals b).entries) (value : v ∈ e.values)
  | captured {snapshot : Snapshot} (made : snapshot ∈ s.snapshots) (value : v ∈ snapshot.values)
  | context {script : Script} (made : script ∈ s.scripts) (value : v = Script.context script)

def Refers (s : Session) (id : ContainerId) : Prop :=
  ∃ v, s.Stores v ∧ s.heap.Holds v (.container id)

/-- Whether an operation is given a value for a variable, its metadata or a context, or to be put
into a container. -/
def Gives (s : Session) (op : Op) (v : Value) : Prop :=
  match op with
  | .scope (.top value) | .scope (.setGlobal _ _ value) | .script (.set _ _ value)
  | .script (.setGlobal _ _ value) | .script (.create _ value) | .host (.append _ value)
  | .host (.put _ _ value) => v = value
  | .scope (.set _ name value metadata) => v ∈ Entry.values ⟨name, value, metadata⟩
  | .script (.build receiver context) | .script (.child _ _ context receiver) =>
    v = receiver ∨ v = context
  | .snapshot (.make fields) => s.heap.InScope fields.dict v
  | .snapshot (.makeEntry fields) => s.heap.InEntry fields.dict v
  | .snapshot (.load data) =>
    ∃ fields, s.heap.dict? data = some fields ∧ s.heap.InScope fields v
  | _ => False

theorem Stores.congr (stored : t.Stores v) (forest : t.forest = s.forest)
    (snapshots : t.snapshots = s.snapshots) (scripts : t.scripts = s.scripts) : s.Stores v := by
  cases stored with
  | bound mem value => exact .bound (forest ▸ mem) value
  | captured made value => exact .captured (snapshots ▸ made) value
  | context made value => exact .context (scripts ▸ made) value

theorem Stores.of_get {b : ScopeId} {name : String} (found : s.forest.get b name = some v) :
    s.Stores v := by
  obtain ⟨c, -, hvalue⟩ := List.exists_of_findSome?_eq_some found
  obtain ⟨e, hfound, rfl⟩ := Option.map_eq_some_iff.mp hvalue
  exact .bound (List.mem_of_find?_eq_some hfound) (Entry.mem_values.mpr (Or.inl rfl))

/-! ## What is stored by an operation -/

/-- An operation that makes no container, and after which a session stores what it stored and
values of which `P` is true.  It answers such values only. -/
structure Brings (s : Session) (P : Value → Prop) (r : Session × Outcome) : Prop where
  heap : r.1.heap = s.heap
  stores : ∀ v, r.1.Stores v → s.Stores v ∨ P v
  answers : ∀ a, r.2.answer = .ok a → ∀ v ∈ a.values, s.Stores v ∨ P v

namespace Brings

variable {P : Value → Prop} {r : Session × Outcome}

theorem answer (s : Session) {a : Reply} (given : ∀ v ∈ a.values, s.Stores v ∨ P v) :
    Brings s P (s.answer a) where
  heap := rfl
  stores _ stored := Or.inl stored
  answers := by
    rintro _ ⟨⟩
    exact given

theorem fail (s : Session) (e : Failure) (log : List Record) :
    Brings s P (s, ⟨.error e, log⟩) where
  heap := rfl
  stores _ stored := Or.inl stored
  answers _ h := nomatch h

theorem becomes {g : Forest} {ws : List Write} (h : s.forest.Becomes ws g)
    (written : ∀ w ∈ ws, ∀ v ∈ w.values, s.Stores v ∨ P v) {a : Reply} (log : List Record)
    (given : ∀ v ∈ a.values, s.Stores v ∨ P v) :
    Brings s P ({ s with forest := g }, ⟨.ok a, log⟩) where
  heap := rfl
  stores v stored := by
    cases stored with
    | @bound b e mem value =>
      replace mem : e ∈ (g.locals b).entries := mem
      rw [h.locals] at mem
      rcases Write.values_of_replay mem value with ⟨d, hd, hv⟩ | ⟨w, hw, hv⟩
      · exact Or.inl (.bound hd hv)
      · exact written w hw v hv
    | captured made value => exact Or.inl (.captured made value)
    | context made value => exact Or.inl (.context made value)
  answers := by
    rintro _ ⟨⟩
    exact given

/-- It makes no difference whether the configuration is kept before. -/
theorem keep {c : Option Config} (h : Brings { s with config := c } P r) : Brings s P r where
  heap := h.heap
  stores v stored := (h.stores v stored).imp_left fun stored => stored.congr rfl rfl rfl
  answers a ha v mem := (h.answers a ha v mem).imp_left fun stored => stored.congr rfl rfl rfl

theorem withConfig {next : Session → Config → Session × Outcome}
    (h : ∀ c, Brings { s with config := some c } P (next { s with config := some c } c)) :
    Brings s P (s.withConfig next) := by
  rcases withConfig_cases s next with ⟨c, -, heq⟩ | ⟨e, -, heq⟩
  · rw [heq]
    exact (h c).keep
  · rw [heq]
    exact fail s _ _

theorem withScope {b : ScopeId} (h : b < s.forest.size → Brings s P r) :
    Brings s P (s.withScope b r) := by
  rw [Session.withScope]
  split
  next lt => exact h lt
  next => exact fail s _ _

theorem withScript {id : ScriptId} {next : Script → Session × Outcome}
    (h : ∀ script ∈ s.scripts, Brings s P (next script)) : Brings s P (s.withScript id next) := by
  rw [Session.withScript]
  split
  next script found => exact h script (Array.mem_of_getElem? found)
  next => exact fail s _ _

theorem withSnapshot {id : SnapshotId} {next : Snapshot → Session × Outcome}
    (h : ∀ snapshot ∈ s.snapshots, Brings s P (next snapshot)) :
    Brings s P (s.withSnapshot id next) := by
  rw [Session.withSnapshot]
  split
  next snapshot found => exact h snapshot (Array.mem_of_getElem? found)
  next => exact fail s _ _

theorem lookup (s : Session) (b : ScopeId) (name : String) : Brings s P (s.lookup b name) := by
  rw [Session.lookup]
  split
  next v found =>
    refine answer s fun u mem => Or.inl ?_
    rw [List.mem_singleton.mp mem]
    exact .of_get found
  next => exact fail s _ _

theorem withReceiver {b : ScopeId} {receiver : Value} {next : Session → Value → Session × Outcome}
    (h : ∀ (config : Option Config) (v : Value), s.Stores v ∨ v = receiver →
      Brings { s with config } P (next { s with config } v)) :
    Brings s P (s.withReceiver b receiver next) := by
  rw [Session.withReceiver]
  split
  next => exact h s.config receiver (Or.inr rfl)
  next =>
    refine withConfig fun c => ?_
    cases hget : s.forest.get b c.selfName with
    | some v => exact h (some c) v (Or.inl (.of_get hget))
    | none =>
      simp only
      exact lookup _ _ _

theorem withCapture {b : ScopeId} {next : Session → Snapshot → Session × Outcome}
    (h : ∀ (c : Config) (snapshot : Snapshot), Snapshot.capture s.forest b = .ok snapshot →
      Brings { s with config := some c } P (next { s with config := some c } snapshot)) :
    Brings s P (s.withCapture b next) := by
  refine withConfig fun c => ?_
  simp only
  split
  next => exact fail _ _ _
  next =>
    split
    next => exact fail _ _ _
    next snapshot captured => exact h c snapshot captured

theorem addScript {t : Session} {a : Reply} {log : List Record} {script : Script}
    (given : s.Stores script.context ∨ P script.context) (h : Brings s P (t, ⟨.ok a, log⟩)) :
    Brings s P (t.addScript script) where
  heap := h.heap
  stores v stored := by
    cases stored with
    | bound mem value => exact h.stores v (.bound mem value)
    | captured made value => exact h.stores v (.captured made value)
    | context made value =>
      rcases Array.mem_push.mp made with made | rfl
      · exact h.stores v (.context made value)
      · exact value ▸ given
  answers := by
    rintro _ ⟨⟩ v mem
    exact absurd mem List.not_mem_nil

theorem addSnapshot {snapshot : Snapshot} (given : ∀ v ∈ snapshot.values, s.Stores v ∨ P v)
    (log : List Record) : Brings s P (s.addSnapshot snapshot log) where
  heap := rfl
  stores v stored := by
    cases stored with
    | bound mem value => exact Or.inl (.bound mem value)
    | captured made value =>
      rcases Array.mem_push.mp made with made | rfl
      · exact Or.inl (.captured made value)
      · exact given v value
    | context made value => exact Or.inl (.context made value)
  answers := by
    rintro _ ⟨⟩ v mem
    exact absurd mem List.not_mem_nil

theorem rebuild {snapshot : Snapshot} (given : ∀ v ∈ snapshot.values, s.Stores v ∨ P v) :
    Brings s P (s.rebuild snapshot) :=
  becomes (Snapshot.becomes_restore s.forest snapshot)
    (fun _ hw v hv => given v (Snapshot.mem_values.mpr (Snapshot.values_of_frameWrites hw hv))) _
    fun _ mem => absurd mem List.not_mem_nil

end Brings

theorem brings_scopeStep (s : Session) (op : ScopeOp) :
    Brings s (s.Gives (.scope op)) (s.scopeStep op) := by
  have hnone : ∀ {t : Session} {P : Value → Prop}, ∀ v ∈ ([] : List Value), t.Stores v ∨ P v :=
    fun _ mem => absurd mem List.not_mem_nil
  have hadd : ∀ (t : Session) (parent : Option ScopeId) (P : Value → Prop) (b : ScopeId),
      Brings t P ({ t with forest := (t.forest.add parent).2 }, .reply (.scope b)) :=
    fun t parent _ _ => .becomes (.add t.forest parent) (fun _ hw => absurd hw List.not_mem_nil) _
      hnone
  have hwrite : ∀ {b : ScopeId}, b < s.forest.size → ∀ (name : String) (value : Value)
      (metadata : Option Metadata) {P : Value → Prop} (log : List Record) (c : ScopeId),
      (∀ v ∈ Write.values ⟨b, name, value, metadata⟩, P v) →
        Brings s P (s.bind b name value metadata, ⟨.ok (.scope c), log⟩) :=
    fun lt name value metadata _ log _ given => .becomes (.write lt name value metadata)
      (fun w hw v hv => Or.inr (given v (List.mem_singleton.mp hw ▸ hv))) log hnone
  cases op with
  | create parent =>
    cases parent with
    | none => exact .withConfig fun c => hadd _ _ _ _
    | some p => exact .withScope fun _ => .withConfig fun c => hadd _ _ _ _
  | top receiver =>
    refine .withConfig fun c => .becomes (becomes_addTop _ c receiver) (fun w hw v hv => ?_) _ hnone
    rw [List.mem_singleton.mp hw] at hv
    exact Or.inr (List.mem_singleton.mp hv)
  | child p => exact .withScope fun _ => .withConfig fun c => hadd _ _ _ _
  | descend p count =>
    cases count with
    | zero => exact .withScope fun _ => .answer s hnone
    | succ count =>
      refine .withScope fun _ => .withConfig fun c => ?_
      obtain ⟨g, heq, hg⟩ := becomes_addScopes { s with config := some c } p (count + 1)
      simp only [Session.answer, heq]
      exact .becomes (s := { s with config := some c }) hg
        (fun _ hw => absurd hw List.not_mem_nil) _ hnone
  | parent b =>
    refine .withScope fun _ => ?_
    split
    next => exact .answer s hnone
    next => exact .answer s hnone
  | localItems b =>
    refine .withScope fun _ => .answer s fun v mem => ?_
    obtain ⟨e, he, hv⟩ := List.mem_flatMap.mp mem
    exact Or.inl (.bound he hv)
  | metadata b name =>
    refine .withScope fun _ => ?_
    split
    next m found =>
      refine .answer s fun v mem => ?_
      obtain ⟨c, -, hm⟩ := List.exists_of_findSome?_eq_some found
      obtain ⟨value, he⟩ := Locals.mem_entries_of_metadata? hm
      exact Or.inl (.bound he (Entry.mem_values.mpr (Or.inr ⟨m, rfl, mem⟩)))
    next => exact .fail s _ _
  | self b => exact .withScope fun _ => .withConfig fun c => .lookup _ b _
  | context b => exact .withScope fun _ => .withConfig fun c => .lookup _ b _
  | get b name => exact .withScope fun _ => .lookup s b name
  | set b name value metadata =>
    refine .withScope fun lt => hwrite lt name value _ _ _ fun v hv => ?_
    refine Entry.mem_values.mpr ((Entry.mem_values.mp hv).imp_right ?_)
    rintro ⟨_, hdict, hv⟩
    obtain ⟨m, hm, rfl⟩ := Option.map_eq_some_iff.mp hdict
    exact ⟨m, hm, mem_values_dictOf hv⟩
  | setGlobal b name value =>
    exact .withScope fun lt => hwrite (Forest.root_lt lt) name value none _ _ fun v hv =>
      List.mem_singleton.mp hv
  | _ => exact .withScope fun _ => .answer s hnone

theorem brings_scriptStep (sited : s.Sited) (op : ScriptOp) :
    Brings s (s.Gives (.script op)) (s.scriptStep op) := by
  have hnone : ∀ {t : Session} {P : Value → Prop}, ∀ v ∈ ([] : List Value), t.Stores v ∨ P v :=
    fun _ mem => absurd mem List.not_mem_nil
  have hwrite : ∀ {b : ScopeId}, b < s.forest.size → ∀ (name : String) (value : Value)
      {P : Value → Prop} (log : List Record), P value →
        Brings s P (s.bind b name value none, ⟨.ok (.value value), log⟩) :=
    fun lt name value _ log given => .becomes (.write lt name value none) (fun w hw v hv => by
      rw [List.mem_singleton.mp hw] at hv
      exact Or.inr ((List.mem_singleton.mp hv).symm ▸ given)) log
      fun v mem => Or.inr ((List.mem_singleton.mp mem).symm ▸ given)
  cases op with
  | create b context =>
    exact .withScope fun _ => .addScript (Or.inr rfl) (.answer s (a := .nothing) hnone)
  | build receiver context =>
    refine .withConfig fun c => .addScript (Or.inr (Or.inr rfl)) (.becomes (a := .nothing)
      (becomes_addTop { s with config := some c } c receiver) (fun w hw v hv => ?_) [] hnone)
    rw [List.mem_singleton.mp hw] at hv
    exact Or.inr (Or.inl (List.mem_singleton.mp hv))
  | child id lexical context receiver =>
    refine .withScript fun script made => ?_
    have hcontext : s.Stores (if isGiven context then context else script.context) ∨
        s.Gives (.script (.child id lexical context receiver))
          (if isGiven context then context else script.context) := by
      split
      next => exact Or.inr (Or.inr rfl)
      next => exact Or.inl (.context made rfl)
    cases lexical with
    | false => exact .addScript hcontext (.answer s (a := .nothing) hnone)
    | true =>
      refine .withReceiver fun config v hv => .withConfig fun c => ?_
      have hstored : ∀ {u : Value}, s.Stores u →
          ({ s with config := some c } : Session).Stores u := fun stored => stored.congr rfl rfl rfl
      refine .addScript (hcontext.imp_left hstored) (.becomes (s := { s with config := some c })
        (a := .nothing) (becomes_addLexical { s with config := some c } c script.scope _ v)
        (fun w hw u hu => ?_) [] hnone)
      rcases List.mem_pair.mp hw with rfl | rfl
      · rw [List.mem_singleton.mp hu]
        exact hcontext.imp_left hstored
      · rw [List.mem_singleton.mp hu]
        exact hv.imp hstored Or.inl
  | scope id => exact .withScript fun script _ => .answer s hnone
  | context id =>
    refine .withScript fun script made => .answer s fun v mem => ?_
    exact Or.inl (.context made (List.mem_singleton.mp mem))
  | self id => exact .withScript fun script _ => .withConfig fun c => .lookup _ _ _
  | get id name => exact .withScript fun script _ => .lookup s _ name
  | set id name value =>
    exact .withScript fun script made => hwrite (sited script made) name value _ rfl
  | setGlobal id name value =>
    exact .withScript fun script made =>
      hwrite (Forest.root_lt (sited script made)) name value _ rfl

/-- Data that is loaded brings null, and what is in the variables of its scopes. -/
theorem stores_of_loadFrom {heap : Heap} {data : Value} (stored : (s.loadFrom heap data).1.Stores v) :
    s.Stores v ∨ v = .null ∨ ∃ fields, heap.dict? data = some fields ∧ heap.InScope fields v := by
  rw [loadFrom] at stored
  split at stored
  next => exact Or.inl stored
  next snapshot read =>
    cases hc : s.configuration with
    | error e =>
      rw [current_of_error hc] at stored
      exact Or.inl stored
    | ok c =>
      rw [current_of_ok hc] at stored
      have hgiven : ∀ v ∈ snapshot.values, ({ s with heap, config := some c } : Session).Stores v ∨
          v = .null ∨ ∃ fields, heap.dict? data = some fields ∧ heap.InScope fields v := by
        intro v mem
        rcases Snapshot.takes_of_checkScope read mem with
          ⟨fields, hdict, hnull | hscope | ⟨t, ht, hv⟩⟩ | ⟨t, ht, hv⟩
        · exact Or.inr (Or.inl hnull)
        · exact Or.inr (Or.inr ⟨fields, hdict, hscope⟩)
        · exact Or.inl (.captured ht hv)
        · exact Or.inl (.captured ht hv)
      exact ((Brings.rebuild hgiven).stores v stored).imp_left fun stored => stored.congr rfl rfl rfl

/-- Loading fails and changes nothing, or leaves the heap that the data is in. -/
theorem loadFrom_heap (s : Session) (heap : Heap) (data : Value) :
    (s.loadFrom heap data).1 = s ∨ (s.loadFrom heap data).1.heap = heap := by
  rw [loadFrom]
  split
  next => exact Or.inl rfl
  next snapshot _ =>
    cases hc : s.configuration with
    | ok c =>
      rw [current_of_ok hc]
      exact Or.inr rfl
    | error e =>
      rw [current_of_error hc]
      exact Or.inl rfl

theorem brings_snapshotStep (s : Session) {op : SnapshotOp} (other : ∀ text, op ≠ .deserialize text) :
    Brings s (fun v => v = .null ∨ s.Gives (.snapshot op) v) (s.snapshotStep op) := by
  cases op with
  | capture b =>
    rw [snapshotStep]
    split
    next =>
      refine .withCapture fun c snapshot captured => .addSnapshot (fun v mem => ?_) _
      obtain ⟨b, e, he, hv⟩ := Snapshot.values_of_capture captured mem
      exact Or.inl (.bound he hv)
    next => exact .fail s _ _
  | restore id =>
    exact .withSnapshot fun snapshot made => .withConfig fun c =>
      .rebuild fun v mem => Or.inl (.captured made mem)
  | scopeCount id =>
    exact .withSnapshot fun _ _ => .answer s fun v mem => absurd mem List.not_mem_nil
  | frames id =>
    exact .withSnapshot fun _ made => .answer s fun v mem => Or.inl (.captured made mem)
  | make fields =>
    rw [snapshotStep]
    split
    next snapshot checked =>
      refine .addSnapshot (fun v mem => ?_) _
      rcases Snapshot.takes_of_ofFields checked mem with hnull | hscope | ⟨t, ht, hv⟩
      · exact Or.inr (Or.inl hnull)
      · exact Or.inr (Or.inr hscope)
      · exact Or.inl (.captured ht hv)
    next => exact .fail s _ _
  | makeEntry fields =>
    rw [snapshotStep]
    split
    next e checked =>
      exact .answer s fun v mem => Or.inr (Snapshot.values_of_checkEntryFields checked mem)
    next => exact .fail s _ _
  | serialize b =>
    rw [snapshotStep]
    split
    next =>
      refine .withCapture fun c snapshot _ => ?_
      simp only
      split
      next =>
        exact .becomes (.refl _) (fun _ hw => absurd hw List.not_mem_nil) _
          fun v mem => absurd mem List.not_mem_nil
      next => exact .fail _ _ _
    next => exact .fail s _ _
  | deserialize text => exact absurd rfl (other text)
  | load data =>
    refine ⟨(loadFrom_heap s s.heap data).elim (congrArg heap) id, fun v stored => ?_,
      fun a ha v mem => ?_⟩
    · exact stores_of_loadFrom stored
    · rw [Reply.values_of_scope ((ending_snapshotStep s (.load data)).kind ha)] at mem
      exact absurd mem List.not_mem_nil

theorem brings_settingsStep (s : Session) (op : SettingsOp) {P : Value → Prop} :
    Brings s P (s.settingsStep op) := by
  have hsources : ∀ sources, Brings s P ({ s with sources }, .reply .nothing) := fun _ =>
    ⟨rfl, fun _ stored => Or.inl (stored.congr rfl rfl rfl), by
      rintro _ ⟨⟩ v mem
      exact absurd mem List.not_mem_nil⟩
  have hconfig : ∀ t : Session, Brings t P (t.withConfig fun t c => t.answer (.config c)) :=
    fun t => .withConfig fun c => .answer _ fun v mem => absurd mem List.not_mem_nil
  cases op with
  | setVariable name value => exact hsources _
  | setFile file => exact hsources _
  | current => exact hconfig s
  | reload => exact .keep (hconfig { s with config := none })
  | make arguments =>
    rw [settingsStep]
    split
    next => exact .answer s fun v mem => absurd mem List.not_mem_nil
    next => exact .fail s _ _

/-! ## All operations -/

inductive Flows (s : Session) (op : Op) (t : Session) : Prop where
  | brings (heap : t.heap = s.heap)
    (stores : ∀ v, t.Stores v → s.Stores v ∨ v = .null ∨ s.Gives op v)
  | changes {id : ContainerId} {w : Value} (adds : Heap.Adds id w s.heap t.heap)
    (given : s.Gives op w) (stores : ∀ v, t.Stores v → s.Stores v)
  | reads {tree : Json} (heap : t.heap = (s.heap.ofJson tree).2)
    (stores : ∀ v, t.Stores v → s.Stores v ∨ v = .null ∨ t.heap.Holds (s.heap.ofJson tree).1 v)

theorem Brings.flows {op : Op} {P : Value → Prop} {r : Session × Outcome} (h : Brings s P r)
    (given : ∀ v, P v → v = .null ∨ s.Gives op v) : s.Flows op r.1 :=
  .brings h.heap fun v stored => (h.stores v stored).imp_right (given v)

theorem flows_deserialize (s : Session) (text : String) :
    s.Flows (.snapshot (.deserialize text)) (s.snapshotStep (.deserialize text)).1 := by
  rw [snapshotStep]
  cases Json.read text.toList with
  | error stop => exact .brings rfl fun _ stored => Or.inl stored
  | ok tree =>
    simp only
    rcases loadFrom_heap s (s.heap.ofJson tree).2 (s.heap.ofJson tree).1 with same | heap
    · rw [same]
      exact .brings rfl fun _ stored => Or.inl stored
    · refine .reads heap fun v stored => ?_
      refine (stores_of_loadFrom stored).imp_right (Or.imp_right ?_)
      rintro ⟨fields, hdict, hscope⟩
      obtain ⟨k, w, mem, held⟩ := hscope.holds
      rw [heap]
      exact .entry hdict mem held

theorem flows_step (sited : s.Sited) (op : Op) : s.Flows op (s.step op).1 := by
  cases op with
  | scope op => exact (brings_scopeStep s op).flows fun _ given => Or.inr given
  | script op => exact (brings_scriptStep sited op).flows fun _ given => Or.inr given
  | snapshot op =>
    by_cases h : ∃ text, op = .deserialize text
    · obtain ⟨text, rfl⟩ := h
      exact flows_deserialize s text
    · exact (brings_snapshotStep s fun text e => h ⟨text, e⟩).flows fun _ given => given
  | host op =>
    cases op with
    | give v => exact .brings rfl fun _ stored => Or.inl stored
    | append id v =>
      show s.Flows _ (s.hostStep (.append id v)).1
      rw [hostStep]
      split
      next done =>
        exact .changes (Heap.adds_append done) rfl fun _ stored => stored.congr rfl rfl rfl
      next => exact .brings rfl fun _ stored => Or.inl stored
    | put id key v =>
      show s.Flows _ (s.hostStep (.put id key v)).1
      rw [hostStep]
      split
      next done =>
        exact .changes (Heap.adds_put done) rfl fun _ stored => stored.congr rfl rfl rfl
      next => exact .brings rfl fun _ stored => Or.inl stored
  | settings op =>
    have hbrings : Brings s (fun _ => False) (s.settingsStep op) := brings_settingsStep s op
    exact hbrings.flows fun _ given => given.elim

/-! ## Closed sessions -/

structure Closed (s : Session) : Prop where
  heap : s.heap.Closed
  stored : ∀ v, s.Stores v → v.Below s.heap.cells.size

end Session

def Op.operands : Op → List Value
  | .scope (.top v) | .scope (.setGlobal _ _ v) | .script (.create _ v) | .script (.set _ _ v)
  | .script (.setGlobal _ _ v) | .snapshot (.load v) | .host (.give v) => [v]
  | .host (.append id v) | .host (.put id _ v) => [.container id, v]
  | .scope (.set _ name value metadata) => Entry.values ⟨name, value, metadata⟩
  | .script (.build v w) | .script (.child _ _ v w) => [v, w]
  | .snapshot (.make arguments) | .snapshot (.makeEntry arguments)
  | .settings (.make arguments) => arguments.map Prod.snd
  | _ => []

namespace Session

variable {s t : Session} {op : Op} {v : Value} {id : ContainerId}

theorem Gives.holds (given : s.Gives op v) : ∃ w ∈ op.operands, s.heap.Holds w v := by
  have hself : ∀ {ws : List Value}, v ∈ ws → ∃ w ∈ ws, s.heap.Holds w v :=
    fun mem => ⟨v, mem, .self v⟩
  have hfields : ∀ {fields : Arguments},
      (∃ k w, (k, w) ∈ fields.dict ∧ s.heap.Holds w v) →
      ∃ w ∈ fields.map Prod.snd, s.heap.Holds w v :=
    fun ⟨_, w, mem, held⟩ => ⟨w, Arguments.mem_values_dict mem, held⟩
  cases op with
  | scope op =>
    cases op with
    | top value => exact hself (List.mem_singleton.mpr given)
    | set b name value metadata => exact hself given
    | setGlobal b name value => exact hself (List.mem_singleton.mpr given)
    | _ => exact given.elim
  | script op =>
    cases op with
    | create b context => exact hself (List.mem_singleton.mpr given)
    | build receiver context => exact hself (List.mem_pair.mpr given)
    | child id lexical context receiver => exact hself (List.mem_pair.mpr given.symm)
    | set id name value => exact hself (List.mem_singleton.mpr given)
    | setGlobal id name value => exact hself (List.mem_singleton.mpr given)
    | _ => exact given.elim
  | snapshot op =>
    cases op with
    | make fields => exact hfields (Heap.InScope.holds given)
    | makeEntry fields => exact hfields (Heap.InEntry.holds given)
    | load data =>
      obtain ⟨fields, hdict, hscope⟩ := given
      obtain ⟨k, w, mem, held⟩ := hscope.holds
      exact ⟨data, List.mem_singleton_self data, .entry hdict mem held⟩
    | _ => exact given.elim
  | host op =>
    cases op with
    | give value => exact given.elim
    | append id value => exact hself (List.mem_pair.mpr (Or.inr given))
    | put id key value => exact hself (List.mem_pair.mpr (Or.inr given))
  | settings op => exact given.elim

theorem Flows.closed (flows : s.Flows op t) (closed : s.Closed)
    (operands : ∀ v ∈ op.operands, v.Below s.heap.cells.size) : t.Closed := by
  have hgiven : ∀ v, s.Gives op v → v.Below s.heap.cells.size := fun v given => by
    obtain ⟨w, mem, held⟩ := given.holds
    exact closed.heap.holds (operands w mem) held
  have hnull : ∀ n, Value.Below n .null := fun _ _ => nofun
  cases flows with
  | brings heap stores =>
    refine ⟨heap ▸ closed.heap, fun v stored => ?_⟩
    rw [heap]
    rcases stores v stored with old | rfl | given
    · exact closed.stored v old
    · exact hnull _
    · exact hgiven v given
  | changes adds given stores =>
    refine ⟨closed.heap.adds adds (hgiven _ given), fun v stored => ?_⟩
    rw [adds.size]
    exact closed.stored v (stores v stored)
  | @reads tree heap stores =>
    obtain ⟨hparted, hnew⟩ := (closed.heap.parted (P := fun _ => False)).ofJson tree
    have hwithin := Heap.within_ofJson tree s.heap
    refine ⟨heap ▸ hparted.closed, fun v stored => ?_⟩
    have hstored := stores v stored
    rw [heap] at hstored ⊢
    rcases hstored with old | rfl | held
    · exact (closed.stored v old).mono hwithin.size
    · exact hnull _
    · exact hparted.closed.holds hnew.1 held

/-- A container is referred to after an operation only if it was before, if something that the
operation is given holds it, or if it is made of a text. -/
theorem Flows.refers (flows : s.Flows op t) (closed : s.Closed) (refers : t.Refers id) :
    s.Refers id ∨ (∃ v, s.Gives op v ∧ s.heap.Holds v (.container id)) ∨ s.heap.cells.size ≤ id := by
  obtain ⟨v, stored, held⟩ := refers
  have hnull : ∀ h : Heap, ¬ h.Holds .null (.container id) := fun h held => by
    rcases Heap.holds_cases held with e | ⟨_, e, -⟩ <;> cases e
  cases flows with
  | brings heap stores =>
    rw [heap] at held
    rcases stores v stored with old | rfl | given
    · exact Or.inl ⟨v, old, held⟩
    · exact absurd held (hnull _)
    · exact Or.inr (Or.inl ⟨v, given, held⟩)
  | changes adds given stores =>
    rcases adds.holds held with held | held
    · exact Or.inl ⟨v, stores v stored, held⟩
    · exact Or.inr (Or.inl ⟨_, given, held⟩)
  | @reads tree heap stores =>
    obtain ⟨hparted, hnew⟩ := (closed.heap.parted (P := fun _ => False)).ofJson tree
    have hstored := stores v stored
    rw [heap] at held hstored
    rcases hstored with old | rfl | inside
    · exact Or.inl ⟨v, old, closed.heap.holds_of_within (Heap.within_ofJson tree s.heap)
        (closed.stored v old) held⟩
    · exact absurd held (hnull _)
    · rcases hparted.holds hnew.2 (inside.trans held) with new | ⟨-, none, -⟩
      · exact Or.inr (Or.inr (new id rfl))
      · exact none.elim

theorem Flows.size (flows : s.Flows op t) : s.heap.cells.size ≤ t.heap.cells.size := by
  cases flows with
  | brings heap stores => exact Nat.le_of_eq (congrArg (·.cells.size) heap.symm)
  | changes adds given stores => exact Nat.le_of_eq adds.size.symm
  | @reads tree heap stores =>
    rw [heap]
    exact (Heap.within_ofJson tree s.heap).size

theorem Sited.step (sited : s.Sited) (op : Op) : (s.step op).1.Sited := by
  have heffect := effect_step sited op
  intro script mem
  rcases heffect.scripts script mem with mem | lt
  · exact Nat.lt_of_lt_of_le (sited script mem) heffect.forest.size
  · exact lt

/-- An operation answers what is stored, and what it is given. -/
theorem answers_step (sited : s.Sited) {a : Reply} (answered : (s.step op).2.answer = .ok a)
    (mem : v ∈ a.values) : s.Stores v ∨ v = .null ∨ s.Gives op v ∨ v ∈ op.operands := by
  have hgiven : ∀ {P : Value → Prop} {r : Session × Outcome}, Brings s P r →
      r.2.answer = .ok a → (P v → v = .null ∨ s.Gives op v) →
      s.Stores v ∨ v = .null ∨ s.Gives op v ∨ v ∈ op.operands := by
    intro P r brings answered given
    rcases brings.answers a answered v mem with old | new
    · exact Or.inl old
    · exact Or.inr ((given new).imp_right Or.inl)
  cases op with
  | scope op => exact hgiven (brings_scopeStep s op) answered Or.inr
  | script op => exact hgiven (brings_scriptStep sited op) answered Or.inr
  | snapshot op =>
    by_cases h : ∃ text, op = .deserialize text
    · obtain ⟨text, rfl⟩ := h
      rw [Reply.values_of_scope ((ending_step sited _).kind answered)] at mem
      exact absurd mem List.not_mem_nil
    · exact hgiven (brings_snapshotStep s fun text e => h ⟨text, e⟩) answered id
  | host op =>
    have hoperand : v ∈ (Op.host op).operands := by
      cases op with
      | give w =>
        cases answered
        exact mem
      | append id w =>
        replace answered : (s.hostStep (.append id w)).2.answer = .ok a := answered
        rw [hostStep] at answered
        split at answered <;> cases answered
        exact List.mem_pair.mpr (Or.inl (List.mem_singleton.mp mem))
      | put id key w =>
        replace answered : (s.hostStep (.put id key w)).2.answer = .ok a := answered
        rw [hostStep] at answered
        split at answered <;> cases answered
        exact List.mem_pair.mpr (Or.inl (List.mem_singleton.mp mem))
    exact Or.inr (Or.inr (Or.inr hoperand))
  | settings op =>
    have hbrings : Brings s (fun _ => False) (s.settingsStep op) := brings_settingsStep s op
    exact hgiven hbrings answered False.elim

theorem Closed.answers (closed : s.Closed) (sited : s.Sited)
    (operands : ∀ v ∈ op.operands, v.Below s.heap.cells.size) {a : Reply}
    (answered : (s.step op).2.answer = .ok a) : ∀ v ∈ a.values, v.Below s.heap.cells.size := by
  intro v mem
  rcases answers_step sited answered mem with old | rfl | given | mem
  · exact closed.stored v old
  · exact fun _ => nofun
  · obtain ⟨w, mem, held⟩ := given.holds
    exact closed.heap.holds (operands w mem) held
  · exact operands v mem

theorem Closed.grow (closed : s.Closed) {heap : Heap} (within : s.heap.Within heap)
    (grown : heap.Closed) : ({ s with heap } : Session).Closed :=
  ⟨grown, fun v stored => (closed.stored v (stored.congr rfl rfl rfl)).mono within.size⟩

theorem Closed.refers_grow (closed : s.Closed) {heap : Heap} (within : s.heap.Within heap)
    (refers : ({ s with heap } : Session).Refers id) : s.Refers id := by
  obtain ⟨v, stored, held⟩ := refers
  have hstored : s.Stores v := stored.congr rfl rfl rfl
  exact ⟨v, hstored, closed.heap.holds_of_within within (closed.stored v hstored) held⟩

theorem Closed.refers_lt (closed : s.Closed) (refers : s.Refers id) : id < s.heap.cells.size := by
  obtain ⟨v, stored, held⟩ := refers
  exact closed.heap.holds (closed.stored v stored) held id rfl

end Session
end ScopeChain
