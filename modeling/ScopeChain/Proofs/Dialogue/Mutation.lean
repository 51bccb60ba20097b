/-
Containers that a user changes.

A list or a dict that a user changes is a value like any other.  Scopes, scripts and snapshots
keep their variables, and each variable its value and its metadata, whatever is done to it, and
only the content of the one container differs where it is shown as a value.  Dicts that passed
metadata, data that was loaded, and the lists and dicts of answers are held by nothing in the
session, so a change of one is seen nowhere.
-/
import ScopeChain.Proofs.Dialogue.Closed
import ScopeChain.Proofs.Session.Lexical

namespace ScopeChain

open Heap (AgreeOff)

/-! ## Answers in a changed heap -/

namespace Session

variable {s : Session} {heap : Heap}

theorem withConfig_heap {next next' : Session → Config → Session × Outcome}
    (h : ∀ c, (next' { s with heap, config := some c } c).2 =
      (next { s with config := some c } c).2) :
    (({ s with heap } : Session).withConfig next').2 = (s.withConfig next).2 := by
  have hsame : ({ s with heap } : Session).configuration = s.configuration :=
    configuration_congr rfl rfl
  cases hc : s.configuration with
  | ok c => rw [withConfig_of_ok hc, withConfig_of_ok (hsame.trans hc), h c]
  | error e =>
    rw [withConfig_of_error hc, withConfig_of_error (hsame.trans hc)]
    rfl

theorem lookup_heap (s : Session) (heap : Heap) (b : ScopeId) (name : String) :
    (({ s with heap } : Session).lookup b name).2 = (s.lookup b name).2 := by
  simp only [lookup]
  split <;> rfl

theorem withScope_heap {b : ScopeId} {r r' : Session × Outcome} (h : r'.2 = r.2) :
    (({ s with heap } : Session).withScope b r').2 = (s.withScope b r).2 := by
  simp only [withScope]
  split
  · exact h
  · rfl

theorem withScript_heap {id : ScriptId} {next next' : Script → Session × Outcome}
    (h : ∀ script, (next' script).2 = (next script).2) :
    (({ s with heap } : Session).withScript id next').2 = (s.withScript id next).2 := by
  simp only [withScript]
  split
  · exact h _
  · rfl

theorem addScopes_heap (s : Session) (heap : Heap) (b : ScopeId) (count : Nat) :
    ({ s with heap } : Session).addScopes b count =
      ((s.addScopes b count).1, { (s.addScopes b count).2 with heap }) := by
  induction count generalizing s b with
  | zero => rfl
  | succ count ih => exact ih (s.addScope (some b)).2 _

/-- Scopes answer the same whatever is in containers. -/
theorem ask_heap (s : Session) (heap : Heap) (op : ScopeOp) :
    ({ s with heap } : Session).ask op = s.ask op := by
  show (({ s with heap } : Session).scopeStep op).2 = (s.scopeStep op).2
  cases op with
  | create parent =>
    cases parent with
    | none => exact withConfig_heap fun _ => rfl
    | some p => exact withScope_heap (withConfig_heap fun _ => rfl)
  | top receiver => exact withConfig_heap fun _ => rfl
  | child p => exact withScope_heap (withConfig_heap fun _ => rfl)
  | descend p count =>
    cases count with
    | zero => exact withScope_heap rfl
    | succ count =>
      refine withScope_heap (withConfig_heap fun c => ?_)
      simp only [addScopes_heap { s with config := some c } heap]
      rfl
  | parent b =>
    refine withScope_heap ?_
    cases s.forest.parent? b <;> rfl
  | metadata b name =>
    refine withScope_heap ?_
    cases s.forest.metadata b name <;> rfl
  | self b =>
    exact withScope_heap (withConfig_heap fun c => lookup_heap { s with config := some c } _ _ _)
  | context b =>
    exact withScope_heap (withConfig_heap fun c => lookup_heap { s with config := some c } _ _ _)
  | get b name => exact withScope_heap (lookup_heap s heap b name)
  | _ => exact withScope_heap rfl

theorem withReceiver_heap {b : ScopeId} {receiver : Value}
    {next next' : Session → Value → Session × Outcome}
    (h : ∀ (config : Option Config) (v : Value),
      (next' { s with heap, config } v).2 = (next { s with config } v).2) :
    (({ s with heap } : Session).withReceiver b receiver next').2 =
      (s.withReceiver b receiver next).2 := by
  simp only [withReceiver]
  split
  · exact h s.config receiver
  · refine withConfig_heap fun c => ?_
    cases s.forest.get b c.selfName with
    | some v => exact h (some c) v
    | none => exact lookup_heap { s with config := some c } heap b c.selfName

theorem askScript_heap (s : Session) (heap : Heap) (op : ScriptOp) :
    ({ s with heap } : Session).askScript op = s.askScript op := by
  show (({ s with heap } : Session).scriptStep op).2 = (s.scriptStep op).2
  cases op with
  | create b context => exact withScope_heap rfl
  | build receiver context => exact withConfig_heap fun _ => rfl
  | child id lexical context receiver =>
    refine withScript_heap fun script => ?_
    cases lexical with
    | false => rfl
    | true =>
      exact withReceiver_heap fun config v => withConfig_heap (s := { s with config }) fun c => rfl
  | scope id => exact withScript_heap fun _ => rfl
  | context id => exact withScript_heap fun _ => rfl
  | self id =>
    exact withScript_heap fun script => withConfig_heap fun c =>
      lookup_heap { s with config := some c } _ _ _
  | get id name => exact withScript_heap fun script => lookup_heap s _ _ _
  | set id name value => exact withScript_heap fun _ => rfl
  | setGlobal id name value => exact withScript_heap fun _ => rfl

theorem frames_heap (s : Session) (heap : Heap) (id : SnapshotId) :
    (({ s with heap } : Session).step (.snapshot (.frames id))).2 =
      (s.step (.snapshot (.frames id))).2 := by
  show (({ s with heap } : Session).withSnapshot id _).2 = (s.withSnapshot id _).2
  simp only [withSnapshot]
  cases s.snapshots[id]? <;> rfl

end Session

def Op.Inspects : Op → Prop
  | .scope _ | .script _ | .snapshot (.frames _) => True
  | _ => False

theorem Session.step_heap (s : Session) (heap : Heap) {op : Op} (inspects : op.Inspects) :
    (({ s with heap } : Session).step op).2 = (s.step op).2 := by
  cases op with
  | scope op => exact ask_heap s heap op
  | script op => exact askScript_heap s heap op
  | snapshot op =>
    cases op with
    | frames id => exact frames_heap s heap id
    | _ => exact inspects.elim
  | host op => exact inspects.elim
  | settings op => exact inspects.elim

/-! ## Values in a changed heap -/

section Shown

variable {id : ContainerId} {h h' : Heap} {v : Value}

theorem Reply.agreeOff_metadataValue (agree : AgreeOff id h h') (metadata : Option Metadata) :
    (metadataValue h' metadata).1 = (metadataValue h metadata).1 ∧
      AgreeOff id (metadataValue h metadata).2 (metadataValue h' metadata).2 := by
  cases metadata with
  | none => exact ⟨rfl, agree⟩
  | some m =>
    obtain ⟨hid, halloc⟩ := agree.alloc (.dict m)
    exact ⟨congrArg Value.container hid, halloc⟩

theorem Reply.agreeOff_itemValues (agree : AgreeOff id h h') (entries : List Entry) :
    (itemValues h' entries).1 = (itemValues h entries).1 ∧
      AgreeOff id (itemValues h entries).2 (itemValues h' entries).2 := by
  induction entries generalizing h h' with
  | nil => exact ⟨rfl, agree⟩
  | cons e rest ih =>
    obtain ⟨hvalue, hagree⟩ := agreeOff_metadataValue agree e.metadata
    obtain ⟨hid, halloc⟩ := hagree.alloc
      (.tuple [.text e.name, e.value, (metadataValue h e.metadata).1])
    obtain ⟨hrest, hagree'⟩ := ih halloc
    simp only [itemValues, hvalue]
    exact ⟨by rw [hid, hrest], hagree'⟩

theorem Reply.agreeOff_newList (agree : AgreeOff id h h') (items : List Value) :
    (newList h' items).1 = (newList h items).1 ∧
      AgreeOff id (newList h items).2 (newList h' items).2 := by
  obtain ⟨hid, halloc⟩ := agree.alloc (.list items)
  exact ⟨congrArg Value.container hid, halloc⟩

theorem Reply.agreeOff_toValue {r : Reply} {heap : Heap} (agree : AgreeOff id h h')
    (made : r.toValue h = some (v, heap)) :
    ∃ heap', r.toValue h' = some (v, heap') ∧ AgreeOff id heap heap' := by
  have hpair : ∀ p p' : Value × Heap, p'.1 = p.1 ∧ AgreeOff id p.2 p'.2 → some p = some (v, heap) →
      ∃ heap', some p' = some (v, heap') ∧ AgreeOff id heap heap' := by
    rintro p p' ⟨hvalue, hagree⟩ heq
    cases heq
    exact ⟨p'.2, congrArg some (Prod.ext hvalue rfl), hagree⟩
  cases r with
  | names ns => exact hpair _ _ (agreeOff_newList agree _) made
  | scopes bs => exact hpair _ _ (agreeOff_newList agree _) made
  | metadata m => exact hpair _ _ (agreeOff_metadataValue agree _) made
  | config c => exact hpair _ _ (agreeOff_metadataValue agree _) made
  | items entries =>
    obtain ⟨hitems, hagree⟩ := agreeOff_itemValues agree entries
    obtain ⟨hlist, hagree'⟩ := agreeOff_newList hagree (itemValues h entries).1
    refine hpair (newList (itemValues h entries).2 (itemValues h entries).1)
      (newList (itemValues h' entries).2 (itemValues h' entries).1) ?_ made
    rw [hitems]
    exact ⟨hlist, hagree'⟩
  | frames fs => cases made
  | entry e => cases made
  | _ => exact hpair (_, h) (_, h') ⟨rfl, agree⟩ made

namespace Dialogue

theorem showValue_agree (agree : AgreeOff id h h') (apart : ¬ h.Holds v (.container id)) :
    showValue h' v = showValue h v := by
  rw [showValue, showValue, agree.size]
  exact agree.ofValue apart

theorem showEntry_agree (agree : AgreeOff id h h') {e : Entry}
    (apart : ∀ v ∈ e.values, ¬ h.Holds v (.container id)) : showEntry h' e = showEntry h e := by
  have hvalue := showValue_agree agree (apart e.value (Entry.mem_values.mpr (Or.inl rfl)))
  have hmetadata : showMetadata h' e.metadata = showMetadata h e.metadata := by
    cases hm : e.metadata with
    | none => rfl
    | some m =>
      simp only [showMetadata]
      rw [Listwise.mapM_congr fun p mem => ?_]
      rw [showValue_agree agree (apart p.2 (Entry.mem_values.mpr
        (Or.inr ⟨m, hm, List.mem_map_of_mem mem⟩)))]
  rw [showEntry, showEntry, hvalue, hmetadata]

theorem keepValue_agree (agree : AgreeOff id h h') (apart : ¬ h.Holds v (.container id)) :
    keepValue h' v = keepValue h v := by
  cases v with
  | container other =>
    have hne : other ≠ id := fun e => apart (e ▸ .self _)
    simp only [keepValue, agree.others other hne]
  | _ => rfl

theorem showReply_of_value {d : Dialogue} {keep : Bool} {r : Reply} {heap : Heap}
    (made : r.toValue d.session.heap = some (v, heap)) :
    (d.showReply keep r).2 = (.literal (showValue heap v d.handles).1,
      ((if keep then keepValue heap v else pure none) (showValue heap v d.handles).2).1) := by
  cases r with
  | frames fs => cases made
  | entry e => cases made
  | _ =>
    cases made
    rfl

/-- A reply whose values do not hold the one container is shown the same. -/
theorem showReply_agree {s t : Session} {handles : Handles} {keep : Bool} {r : Reply}
    (agree : AgreeOff id s.heap t.heap) (closed : s.heap.Closed) (present : id < s.heap.cells.size)
    (below : ∀ v ∈ r.values, v.Below s.heap.cells.size)
    (apart : ∀ v ∈ r.values, ¬ s.heap.Holds v (.container id)) :
    ((⟨t, handles⟩ : Dialogue).showReply keep r).2 =
      ((⟨s, handles⟩ : Dialogue).showReply keep r).2 := by
  have hvalue : ∀ {v : Value} {heap : Heap}, r.toValue s.heap = some (v, heap) →
      ((⟨t, handles⟩ : Dialogue).showReply keep r).2 =
        ((⟨s, handles⟩ : Dialogue).showReply keep r).2 := by
    intro v heap made
    obtain ⟨heap', hmade, hagree⟩ := Reply.agreeOff_toValue agree made
    have hvalue := Reply.isMade_toValue closed below made
    have happart : ¬ heap.Holds v (.container id) := by
      intro held
      rcases hvalue.parted.holds hvalue.new held with new | ⟨u, mem, held⟩
      · exact Nat.lt_irrefl _ (Nat.lt_of_lt_of_le present (new id rfl))
      · exact apart u mem (closed.holds_of_within hvalue.within (below u mem) held)
    rw [showReply_of_value (d := ⟨s, handles⟩) made, showReply_of_value (d := ⟨t, handles⟩) hmade,
      showValue_agree hagree happart, keepValue_agree hagree happart]
  cases r with
  | frames fs =>
    have hframes : fs.mapM (showFrame t.heap) = fs.mapM (showFrame s.heap) := by
      refine Listwise.mapM_congr fun frame hframe => ?_
      rw [showFrame, showFrame]
      rw [Listwise.mapM_congr fun e he => showEntry_agree agree fun v mem => apart v ?_]
      exact List.mem_flatMap.mpr ⟨frame, hframe, List.mem_flatMap.mpr ⟨e, he, mem⟩⟩
    simp only [showReply, hframes]
    rfl
  | entry e =>
    simp only [showReply, showEntry_agree agree apart]
    rfl
  | _ => exact hvalue rfl

end Dialogue
end Shown

/-! ## What a change is seen in -/

def HostOp.target : HostOp → Option ContainerId
  | .append id _ | .put id _ _ => some id
  | .give _ => none

def HostOp.change : HostOp → Container → Container
  | .append _ v, .list items => .list (items ++ [v])
  | .put _ key v, .dict entries => .dict (putEntry key v entries)
  | _, c => c

namespace Session

variable {s : Session} {op : HostOp} {id : ContainerId}

theorem step_host (target : op.target = some id) :
    ∃ heap, (s.step (.host op)).1 = { s with heap } ∧ AgreeOff id s.heap heap ∧
      ∀ c, s.heap.get? id = some c → heap.get? id = some (op.change c) := by
  cases op with
  | give v => cases target
  | append other v =>
    cases target
    show ∃ heap, (s.hostStep (.append id v)).1 = _ ∧ _
    rw [hostStep]
    cases done : s.heap.append id v with
    | some heap =>
      obtain ⟨items, hitems, rfl⟩ := Heap.append_eq_some.mp done
      refine ⟨_, rfl, Heap.agreeOff_replace .., fun c found => ?_⟩
      cases hitems.symm.trans found
      exact Heap.get?_replace_self found _
    | none =>
      refine ⟨s.heap, rfl, ⟨rfl, fun _ _ => rfl⟩, fun c found => ?_⟩
      cases c with
      | list items =>
        rw [Heap.append, found] at done
        cases done
      | _ => exact found
  | put other key v =>
    cases target
    show ∃ heap, (s.hostStep (.put id key v)).1 = _ ∧ _
    rw [hostStep]
    cases done : s.heap.put id key v with
    | some heap =>
      obtain ⟨entries, hentries, rfl⟩ := Heap.put_eq_some.mp done
      refine ⟨_, rfl, Heap.agreeOff_replace .., fun c found => ?_⟩
      cases hentries.symm.trans found
      exact Heap.get?_replace_self found _
    | none =>
      refine ⟨s.heap, rfl, ⟨rfl, fun _ _ => rfl⟩, fun c found => ?_⟩
      cases c with
      | dict entries =>
        rw [Heap.put, found] at done
        cases done
      | _ => exact found

/-- What a session is after a change of one container.  Every scope, script and snapshot answers
the same names, values and metadata.  The other containers are as they were, and a value that
does not hold the one is shown as it was.  If nothing refers to the one, all that is answered is
also shown as it was. -/
structure Contained (s : Session) (id : ContainerId) (change : Container → Container)
    (t : Session) : Prop where
  answers : ∀ q : Op, q.Inspects → (t.step q).2 = (s.step q).2
  content : ∀ c, s.heap.get? id = some c → t.heap.get? id = some (change c)
  others : ∀ other, other ≠ id → t.heap.get? other = s.heap.get? other
  shown : ∀ v, ¬ s.heap.Holds v (.container id) →
    Dialogue.showValue t.heap v = Dialogue.showValue s.heap v
  unseen : ¬ s.Refers id → ∀ q : Op, q.Inspects →
    (∀ v ∈ q.operands, v.Below s.heap.cells.size ∧ ¬ s.heap.Holds v (.container id)) →
    ∀ handles keep, ((⟨t, handles⟩ : Dialogue).perform q keep).2 =
      ((⟨s, handles⟩ : Dialogue).perform q keep).2

theorem heap_of_inspects (sited : s.Sited) {q : Op} (inspects : q.Inspects) :
    (s.step q).1.heap = s.heap := by
  cases q with
  | scope q => exact (brings_scopeStep s q).heap
  | script q => exact (brings_scriptStep sited q).heap
  | snapshot q =>
    cases q with
    | frames id =>
      have hother : ∀ text, SnapshotOp.frames id ≠ .deserialize text := fun _ => nofun
      exact (brings_snapshotStep s hother).heap
    | _ => exact inspects.elim
  | host q => exact inspects.elim
  | settings q => exact inspects.elim

theorem contained_step (sited : s.Sited) (closed : s.Closed) (present : id < s.heap.cells.size)
    (target : op.target = some id) : s.Contained id op.change (s.step (.host op)).1 := by
  obtain ⟨heap, hstep, hagree, hcontent⟩ := step_host (s := s) target
  rw [hstep]
  refine ⟨fun q inspects => step_heap s heap inspects, hcontent, hagree.others,
    fun v apart => Dialogue.showValue_agree hagree apart, fun unreferred q inspects operands => ?_⟩
  intro handles keep
  have hsame := step_heap s heap inspects
  have hheap := heap_of_inspects sited inspects
  have hheap' : (({ s with heap } : Session).step q).1.heap = heap :=
    heap_of_inspects (s := { s with heap }) sited inspects
  have hanswers : ∀ {r : Reply}, (s.step q).2.answer = .ok r → ∀ v ∈ r.values,
      v.Below s.heap.cells.size ∧ ¬ s.heap.Holds v (.container id) := by
    intro r answered v mem
    refine ⟨closed.answers sited (fun v mem => (operands v mem).1) answered v mem, fun held => ?_⟩
    rcases answers_step sited answered mem with stored | rfl | given | mem
    · exact unreferred ⟨v, stored, held⟩
    · rcases Heap.holds_cases held with e | ⟨_, e, -⟩ <;> cases e
    · obtain ⟨w, mem, hw⟩ := given.holds
      exact (operands w mem).2 (hw.trans held)
    · exact (operands v mem).2 held
  have hshown : ∀ {r : Reply}, (s.step q).2.answer = .ok r →
      ((⟨(({ s with heap } : Session).step q).1, handles⟩ : Dialogue).showReply keep r).2 =
        ((⟨(s.step q).1, handles⟩ : Dialogue).showReply keep r).2 := by
    intro r answered
    have hheaps : AgreeOff id (s.step q).1.heap (({ s with heap } : Session).step q).1.heap := by
      rw [hheap, hheap']
      exact hagree
    refine Dialogue.showReply_agree hheaps ?_ ?_ (fun v mem => ?_) fun v mem => ?_
    · rw [hheap]
      exact closed.heap
    · rw [hheap]
      exact present
    · rw [hheap]
      exact (hanswers answered v mem).1
    · rw [hheap]
      exact (hanswers answered v mem).2
  rcases Dialogue.perform_cases ⟨s, handles⟩ q keep with ⟨e, failed, heq⟩ | ⟨r, answered, heq⟩
  · rcases Dialogue.perform_cases ⟨{ s with heap }, handles⟩ q keep with
      ⟨e', failed', heq'⟩ | ⟨r', answered', -⟩
    · rw [heq, heq', hsame]
      rw [hsame, failed] at failed'
      cases failed'
      rfl
    · rw [hsame, failed] at answered'
      cases answered'
  · rcases Dialogue.perform_cases ⟨{ s with heap }, handles⟩ q keep with
      ⟨e', failed', -⟩ | ⟨r', answered', heq'⟩
    · rw [hsame, answered] at failed'
      cases failed'
    · rw [hsame, answered] at answered'
      cases answered'
      rw [heq, heq', hsame]
      simp only [hshown answered]

end Session

namespace Dialogue

variable {d : Dialogue} {op : Op} {keep : Bool}

/-- What a session refers to after an operation: what it referred to, what holds it, of the values
that the operation is given, and the containers of a text that was read.  No container that is made
for the answer is among them, and the one that is kept of a copy is such a container. -/
structure Disowns (d : Dialogue) (op : Op) (keep : Bool) : Prop where
  refers : ∀ id, (d.perform op keep).1.session.Refers id → d.session.Refers id ∨
    (∃ v, d.session.Gives op v ∧ d.session.heap.Holds v (.container id)) ∨
    d.session.heap.cells.size ≤ id ∧ id < (d.session.step op).1.heap.cells.size
  answered : ∀ id, (d.session.step op).1.heap.cells.size ≤ id →
    ¬ (d.perform op keep).1.session.Refers id
  copies : ∀ r n id, (d.session.step op).2.answer = .ok r → r.IsCopy →
    (d.perform op keep).2.kept = some n → (d.perform op keep).1.handles.kept[n]? = some id →
      (d.session.step op).1.heap.cells.size ≤ id

theorem Shows.refers {d' : Dialogue} {r : Reply} {kept : Option Nat} (shown : d.Shows r d' kept)
    (sound : d.Sound) (below : ∀ v ∈ r.values, v.Below d.session.heap.cells.size)
    {id : ContainerId} (refers : d'.session.Refers id) : d.session.Refers id := by
  have hmade : ∀ {v : Value} {heap : Heap}, r.toValue d.session.heap = some (v, heap) →
      d'.session = { d.session with heap } → d.session.Refers id := by
    intro v heap made session
    rw [session] at refers
    exact sound.closed.refers_grow (Reply.isMade_toValue sound.closed.heap below made).within refers
  cases shown with
  | aside session => exact session ▸ refers
  | value made session => exact hmade made session
  | keeps made _ session => exact hmade made session

/-- A copy that is kept is a new container. -/
theorem Shows.copy {d' : Dialogue} {r : Reply} {kept : Option Nat} (shown : d.Shows r d' kept)
    (sound : d.Sound) (below : ∀ v ∈ r.values, v.Below d.session.heap.cells.size) (copy : r.IsCopy)
    {n : Nat} (kept_eq : kept = some n) {id : ContainerId} (found : d'.handles.kept[n]? = some id) :
    d.session.heap.cells.size ≤ id := by
  cases shown with
  | aside _ _ none => exact nomatch none.symm.trans kept_eq
  | value _ _ _ none => exact nomatch none.symm.trans kept_eq
  | keeps made _ _ found' _ kept =>
    cases kept.symm.trans kept_eq
    cases found'.symm.trans found
    exact (Reply.isMade_toValue sound.closed.heap below made).copy copy id rfl

theorem Sound.refers_perform (sound : d.Sound)
    (known : ∀ v ∈ op.operands, v.Below d.session.heap.cells.size) {id : ContainerId}
    (refers : (d.perform op keep).1.session.Refers id) : (d.session.step op).1.Refers id := by
  rcases perform_cases d op keep with ⟨e, -, heq⟩ | ⟨r, answered, heq⟩
  · rw [heq] at refers
    exact refers
  · rw [heq] at refers
    exact (shows_showReply _ keep r).refers (sound.step known) (sound.answers known answered) refers

theorem Sound.disowns (sound : d.Sound)
    (known : ∀ v ∈ op.operands, v.Below d.session.heap.cells.size) : d.Disowns op keep where
  refers id refers := by
    have hstep := sound.refers_perform known refers
    have hflows := Session.flows_step sound.sited op
    refine (hflows.refers sound.closed hstep).imp_right (Or.imp_right fun le => ⟨le, ?_⟩)
    exact (sound.step known).closed.refers_lt hstep
  answered id le refers :=
    Nat.lt_irrefl _ (Nat.lt_of_lt_of_le
      ((sound.step known).closed.refers_lt (sound.refers_perform known refers)) le)
  copies r n id answered copy kept found := by
    rcases perform_cases d op keep with ⟨e, failed, -⟩ | ⟨r', answered', heq⟩
    · rw [answered] at failed
      cases failed
    · rw [answered] at answered'
      cases answered'
      rw [heq] at kept found
      exact (shows_showReply _ keep r).copy (sound.step known) (sound.answers known answered) copy
        kept found

/-- In every dialogue that can be had, a change of a kept list or dict is contained in it, whatever
the container was used for before.  No operation lets the session refer to a container that it
makes for its answer, nor to one that only passed metadata or the fields of variables and scopes. -/
theorem mutation_contained (reachable : d.Reachable) {id : ContainerId}
    (kept : id ∈ d.handles.kept) {m : HostOp} (target : m.target = some id) :
    d.session.Contained id m.change (d.session.step (.host m)).1 ∧
      ∀ (q : Op) (keep : Bool), (∀ v ∈ q.operands, v.Below d.session.heap.cells.size) →
        d.Disowns q keep :=
  have sound := reachable.sound
  ⟨Session.contained_step sound.sited sound.closed (sound.kept id kept) target,
    fun _ _ known => sound.disowns known⟩

def annotated : Dialogue :=
  let given := ((start ⟨[], none⟩).read (.dict [(.text "unit", .text "m")])).map Prod.snd
  let kept := ((given.getD (start ⟨[], none⟩)).perform (.host (.give (.container 0))) true).1
  let made := (kept.perform (.scope (.create none)) false).1
  let metadata := made.session.heap.dict? (.container 0)
  (made.perform (.scope (.set 0 "x" (.int 1) metadata)) false).1

/-- The dict changes and the metadata does not, and a copy of the metadata is another dict. -/
theorem annotated_contained :
    let t := (annotated.session.step (.host (.put 0 (.text "unit") (.text "s")))).1
    t.heap.get? 0 = some (.dict [(.text "unit", .text "s")]) ∧
      t.ask (.metadata 0 "x") = .reply (.metadata [(.text "unit", .text "m")]) ∧
      annotated.Disowns (.scope (.metadata 0 "x")) true := by
  have hbelow : ∀ {d : Dialogue} {vs : List Value}, 0 < d.session.heap.cells.size →
      (∀ v ∈ vs, ∀ id, v = .container id → id = 0) →
      ∀ v ∈ vs, v.Below d.session.heap.cells.size := by
    intro d vs lt zero v mem id e
    rw [zero v mem id e]
    exact lt
  have hread : (start ⟨[], none⟩).read (.dict [(.text "unit", .text "m")]) =
      some (.container 0, (((start ⟨[], none⟩).read (.dict [(.text "unit", .text "m")])).map
        Prod.snd).getD (start ⟨[], none⟩)) := rfl
  have hreachable : annotated.Reachable := by
    refine .perform (.perform (.perform (.read (.start _) hread) true ?_) false ?_) false ?_
    · refine hbelow (by decide +kernel) fun v mem id e => ?_
      rw [List.mem_singleton.mp mem] at e
      cases e
      rfl
    · exact fun v mem => absurd mem List.not_mem_nil
    · refine hbelow (by decide +kernel) fun v mem id e => ?_
      rcases List.mem_pair.mp mem with rfl | rfl <;> cases e
  have hkept : 0 ∈ annotated.handles.kept := by decide +kernel
  have hchain : annotated.session.forest.chain 0 = [0] := by decide +kernel
  have hmetadata : annotated.session.forest.metadata 0 "x" = some [(.text "unit", .text "m")] := by
    rw [Forest.metadata, hchain]
    rfl
  obtain ⟨hcontained, hdisowns⟩ := mutation_contained hreachable hkept
    (m := .put 0 (.text "unit") (.text "s")) rfl
  have hcontent : annotated.session.heap.get? 0 = some (.dict [(.text "unit", .text "m")]) := rfl
  refine ⟨hcontained.content _ hcontent, ?_,
    hdisowns _ true fun v mem => absurd mem List.not_mem_nil⟩
  refine (hcontained.answers (.scope (.metadata 0 "x")) trivial).trans ?_
  refine (Session.ask_metadata (by decide +kernel) "x").trans ?_
  rw [hmetadata]

end Dialogue
end ScopeChain
