/-
Who sees a write.

Operations on a scope or on a script bind one name, in that scope or in its root.  After one,
every scope answers what it answered before, but for the scopes from which the written one is
the nearest that has what was written.
-/
import ScopeChain.Proofs.Scope.Sight
import ScopeChain.Proofs.Session.Reach

namespace ScopeChain

theorem Forest.depth_write (f : Forest) (b c : ScopeId) (name : String) (value : Value)
    (metadata : Option Metadata) : (f.write b name value metadata).depth c = f.depth c := by
  rw [depth, depth, enclosing, enclosing, chain_write]

theorem Forest.root_write (f : Forest) (b c : ScopeId) (name : String) (value : Value)
    (metadata : Option Metadata) : (f.write b name value metadata).root c = f.root c := by
  rw [root, root, chain_write]

namespace Session

variable {s : Session} {op : Op} {b c : ScopeId} {w : Write}

/-! ## Answers -/

def ask (s : Session) (op : ScopeOp) : Outcome := (s.step (.scope op)).2

theorem ask_of_present {op : ScopeOp} {next : Session × Outcome} (present : c < s.forest.size)
    (step : s.scopeStep op = s.withScope c next) : s.ask op = next.2 := by
  show (s.scopeStep op).2 = next.2
  rw [step, withScope, if_pos present]

theorem ask_answer {op : ScopeOp} {r : Reply} (present : c < s.forest.size)
    (step : s.scopeStep op = s.withScope c (s.answer r)) : s.ask op = .reply r :=
  ask_of_present present step

theorem ask_get (present : c < s.forest.size) (name : String) :
    s.ask (.get c name) = match s.forest.get c name with
      | some v => .reply (.value v)
      | none => ⟨.error (.unknownVariable name), [.lookupFailed name (s.forest.depth c)]⟩ := by
  rw [ask_of_present present (show s.scopeStep (.get c name) = _ from rfl), lookup]
  cases s.forest.get c name <;> rfl

theorem ask_metadata (present : c < s.forest.size) (name : String) :
    s.ask (.metadata c name) = match s.forest.metadata c name with
      | some m => .reply (.metadata m)
      | none => .fail (.unknownVariable name) := by
  rw [ask_of_present present (show s.scopeStep (.metadata c name) = _ from rfl)]
  cases s.forest.metadata c name <;> rfl

theorem ask_visibleNames (present : c < s.forest.size) :
    s.ask (.visibleNames c) = .reply (.names (s.forest.visibleNames c)) :=
  ask_answer present rfl

theorem ask_defines (present : c < s.forest.size) (name : String) :
    s.ask (.defines c name) = .reply (.flag ((s.forest.locals c).defines name)) :=
  ask_answer present rfl

/-! ## Operations that bind a name -/

/-- Operations that bind one name: the scope that they are done on, and the write, which goes
to that scope or to its root. -/
inductive Binds (s : Session) : Op → ScopeId → Write → Prop where
  | set {b : ScopeId} {name : String} {value : Value} {metadata : Option Metadata}
    (present : b < s.forest.size) :
    Binds s (.scope (.set b name value metadata)) b ⟨b, name, value, metadata.map dictOf⟩
  | setGlobal {b : ScopeId} {name : String} {value : Value} (present : b < s.forest.size) :
    Binds s (.scope (.setGlobal b name value)) b ⟨s.forest.root b, name, value, none⟩
  | scriptSet {id : ScriptId} {script : Script} {name : String} {value : Value}
    (found : s.scripts[id]? = some script) :
    Binds s (.script (.set id name value)) script.scope ⟨script.scope, name, value, none⟩
  | scriptSetGlobal {id : ScriptId} {script : Script} {name : String} {value : Value}
    (found : s.scripts[id]? = some script) :
    Binds s (.script (.setGlobal id name value)) script.scope
      ⟨s.forest.root script.scope, name, value, none⟩

def written (s : Session) (w : Write) : Session := s.bind w.scope w.name w.value w.metadata

namespace Binds

theorem step (binds : s.Binds op b w) : (s.step op).1 = s.written w := by
  cases binds with
  | set present => exact congrArg Prod.fst (if_pos present)
  | setGlobal present => exact congrArg Prod.fst (if_pos present)
  | scriptSet found =>
    show (s.withScript _ _).1 = _
    rw [withScript, found]
    rfl
  | scriptSetGlobal found =>
    show (s.withScript _ _).1 = _
    rw [withScript, found]
    rfl

theorem present (binds : s.Binds op b w) (sited : s.Sited) : b < s.forest.size := by
  cases binds with
  | set present => exact present
  | setGlobal present => exact present
  | scriptSet found => exact sited.lt found
  | scriptSetGlobal found => exact sited.lt found

/-- The write goes to the scope that the operation is done on, or to the root of it. -/
theorem target (binds : s.Binds op b w) : w.scope = b ∨ w.scope = s.forest.root b := by
  cases binds with
  | set => exact Or.inl rfl
  | setGlobal => exact Or.inr rfl
  | scriptSet => exact Or.inl rfl
  | scriptSetGlobal => exact Or.inr rfl

theorem target_mem_chain (binds : s.Binds op b w) : w.scope ∈ s.forest.chain b := by
  rcases binds.target with h | h
  · rw [h, Forest.chain_eq]
    exact List.mem_cons_self
  · rw [h]
    exact Forest.root_mem_chain s.forest b

theorem target_present (binds : s.Binds op b w) (sited : s.Sited) : w.scope < s.forest.size :=
  Nat.lt_of_le_of_lt (Forest.le_of_mem_chain binds.target_mem_chain) (binds.present sited)

end Binds

/-! ## What is seen -/

/-- What every scope answers after a write.  It finds the value that was written if the written
scope is the nearest on its chain that defines the name, the metadata that was supplied if it is
the nearest that has metadata for the name, and one more visible name if the written scope is on
its chain.  All other answers are those of before. -/
theorem seen_after_write (reachable : s.Reachable) (binds : s.Binds op b w)
    (present : c < s.forest.size) (name : String) :
    let t := (s.step op).1
    (name = w.name → s.forest.Nearest (·.defines name) w.scope c →
      t.ask (.get c name) = .reply (.value w.value)) ∧
    (¬ (name = w.name ∧ s.forest.Nearest (·.defines name) w.scope c) →
      t.ask (.get c name) = s.ask (.get c name)) ∧
    (∀ m ∈ w.metadata, name = w.name →
      s.forest.Nearest (fun l => (l.metadata? name).isSome) w.scope c →
      t.ask (.metadata c name) = .reply (.metadata m)) ∧
    (¬ (w.metadata.isSome ∧ name = w.name ∧
        s.forest.Nearest (fun l => (l.metadata? name).isSome) w.scope c) →
      t.ask (.metadata c name) = s.ask (.metadata c name)) ∧
    (∃ before after, s.ask (.visibleNames c) = .reply (.names before) ∧
      t.ask (.visibleNames c) = .reply (.names after) ∧ Increasing after ∧
      (∀ n, n ∈ after ↔ n ∈ before ∨ n = w.name ∧ w.scope ∈ s.forest.chain c) ∧
      (w.scope ∉ s.forest.chain c ∨ w.name ∈ before → after = before)) ∧
    (c = w.scope ∧ name = w.name → t.ask (.defines c name) = .reply (.flag true)) ∧
    (¬ (c = w.scope ∧ name = w.name) → t.ask (.defines c name) = s.ask (.defines c name)) := by
  have htarget := binds.target_present reachable.proper.sited
  have hpresent : c < (s.written w).forest.size :=
    Nat.lt_of_lt_of_eq present (Forest.size_write ..).symm
  have hdepth : (s.written w).forest.depth c = s.forest.depth c := Forest.depth_write ..
  intro t
  rw [show t = s.written w from binds.step]
  refine ⟨fun hname near => ?_, fun h => ?_, fun m hm hname near => ?_, fun h => ?_, ?_,
    fun h => ?_, fun h => ?_⟩
  · subst hname
    have hget : (s.written w).forest.get c w.name = some w.value :=
      Forest.get_write_of_nearest htarget near
    rw [ask_get hpresent, hget]
  · have hget : (s.written w).forest.get c name = s.forest.get c name :=
      Forest.get_write_of_not htarget h
    rw [ask_get hpresent, ask_get present, hget, hdepth]
  · subst hname
    have hmetadata : (s.written w).forest.metadata c w.name = some m :=
      Forest.metadata_write_of_nearest htarget near hm
    rw [ask_metadata hpresent, hmetadata]
  · have hmetadata : (s.written w).forest.metadata c name = s.forest.metadata c name :=
      Forest.metadata_write_of_not htarget h
    rw [ask_metadata hpresent, ask_metadata present, hmetadata]
  · exact ⟨_, _, ask_visibleNames present, ask_visibleNames hpresent,
      Forest.increasing_visibleNames .., fun n => Forest.mem_visibleNames_write htarget,
      Forest.visibleNames_write_of_same htarget⟩
  · obtain ⟨hc, hname⟩ := h
    have hdefines : ((s.written w).forest.locals c).defines name = true :=
      (Forest.defines_write htarget c name).mpr (Or.inr ⟨hc, hname⟩)
    rw [ask_defines hpresent, hdefines]
  · have hdefines : ((s.written w).forest.locals c).defines name =
        (s.forest.locals c).defines name :=
      Bool.eq_iff_iff.mpr ((Forest.defines_write htarget c name).trans (or_iff_left h))
    rw [ask_defines hpresent, ask_defines present, hdefines]

def siblings : Session := (start ⟨[], none⟩).afterAll [
  .op (.scope (.create none)), .op (.scope (.set 0 "x" (.int 0) none)),
  .op (.scope (.child 0)), .op (.scope (.child 0)), .op (.scope (.child 1)),
  .op (.scope (.set 3 "y" .null none))]

/-- A name that is written in the first child is seen from inside and not from the other. -/
theorem siblings_seen :
    let t := (siblings.step
      (.scope (.set 1 "x" (.int 1) (some [(.text "unit", .text "m")])))).1
    t.ask (.get 3 "x") = .reply (.value (.int 1)) ∧
      t.ask (.metadata 3 "x") = .reply (.metadata [(.text "unit", .text "m")]) ∧
      t.ask (.get 2 "x") = siblings.ask (.get 2 "x") ∧
      t.ask (.defines 3 "x") = siblings.ask (.defines 3 "x") := by
  have hreachable : siblings.Reachable := ⟨_, _, rfl⟩
  have hbinds : siblings.Binds
      (.scope (.set 1 "x" (.int 1) (some [(.text "unit", .text "m")]))) 1
      ⟨1, "x", .int 1, some [(.text "unit", .text "m")]⟩ := .set (by decide +kernel)
  have hinside : siblings.forest.chain 3 = [3, 1, 0] := by decide +kernel
  have houtside : siblings.forest.chain 2 = [2, 0] := by decide +kernel
  obtain ⟨hvalue, -, hmetadata, -, -, -, hdefines⟩ :=
    seen_after_write hreachable hbinds (c := 3) (by decide +kernel) "x"
  obtain ⟨-, hother, -⟩ := seen_after_write hreachable hbinds (c := 2) (by decide +kernel) "x"
  refine ⟨hvalue rfl ⟨[3], [0], hinside, ?_⟩, hmetadata _ rfl rfl ⟨[3], [0], hinside, ?_⟩,
    hother fun h => ?_, hdefines (by decide)⟩
  · decide +kernel
  · decide +kernel
  · obtain ⟨nearer, farther, hsplit, -⟩ := h.2
    have hmem : 1 ∈ siblings.forest.chain 2 := by
      rw [hsplit]
      exact List.mem_append_right _ List.mem_cons_self
    rw [houtside] at hmem
    exact absurd hmem (by decide)

end Session
end ScopeChain
