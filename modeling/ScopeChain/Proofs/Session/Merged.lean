/-
One map for a chain.

Of the variables along a chain, and of their metadata, there is one map each, in which the inner
scopes cover the outer ones.  Whatever is asked about names in a scope is answered from these two
maps, and a new scope inside it has the same values.
-/
import ScopeChain.Proofs.Scope.Overlay
import ScopeChain.Proofs.Session.Seen

namespace ScopeChain

namespace Forest

variable {f : Forest} {b : ScopeId}

theorem get_add (present : b < f.size) (name : String) :
    (f.add (some b)).2.get (f.add (some b)).1 name = f.get b name := by
  have hparent : (f.add (some b)).2.parent? (f.add (some b)).1 = some b := by
    rw [parent?_add_self, Option.filter_some, if_pos (decide_eq_true present)]
  rw [get, chain_of_parent hparent, List.findSome?_cons, locals_add_self]
  exact (Within.add f (some b)).get present name

end Forest

namespace Session

variable {s : Session} {b : ScopeId}

theorem ask_resolves (present : b < s.forest.size) (name : String) :
    s.ask (.resolves b name) = .reply (.flag (s.forest.resolves b name)) :=
  ask_answer present rfl

theorem answer_get (present : b < s.forest.size) (name : String) :
    (s.ask (.get b name)).answer = match s.forest.get b name with
      | some v => .ok (.value v)
      | none => .error (.unknownVariable name) := by
  rw [ask_get present]
  cases s.forest.get b name <;> rfl

/-! ## New scopes -/

inductive MakesChild (b : ScopeId) : ScopeOp → Prop where
  | child : MakesChild b (.child b)
  | create : MakesChild b (.create (some b))

variable {op : ScopeOp}

theorem MakesChild.step (makes : MakesChild b op) (present : b < s.forest.size) :
    s.step (.scope op) = s.withConfig fun s _ =>
      ((s.addScope (some b)).2, .reply (.scope (s.addScope (some b)).1)) := by
  cases makes <;> exact if_pos present

theorem MakesChild.answered (makes : MakesChild b op) (present : b < s.forest.size) {c : Config}
    (known : s.configuration = .ok c) :
    ∃ d, (s.step (.scope op)).2.answer = .ok (.scope d) := by
  rw [makes.step present, withConfig_of_ok known]
  exact ⟨_, rfl⟩

theorem MakesChild.answer_get (makes : MakesChild b op) (present : b < s.forest.size)
    {d : ScopeId} (made : (s.step (.scope op)).2.answer = .ok (.scope d)) (name : String) :
    ((s.step (.scope op)).1.ask (.get d name)).answer = (s.ask (.get b name)).answer := by
  rw [makes.step present] at made ⊢
  cases hc : s.configuration with
  | error e =>
    rw [withConfig_of_error hc] at made
    cases made
  | ok c =>
    rw [withConfig_of_ok hc] at made ⊢
    obtain rfl : (s.forest.add (some b)).1 = d := by
      cases made
      rfl
    have hpresent : (s.forest.add (some b)).1 < (s.forest.add (some b)).2.size := by
      rw [Forest.size_add]
      exact Nat.lt_succ_self s.forest.size
    rw [Session.answer_get present, ← Forest.get_add present]
    exact Session.answer_get (s := { s with config := some c, forest := _ }) hpresent name

/-! ## The merged maps -/

/-- All that is asked about names in a scope is answered from one map of the values along its
chain and one of the metadata, in both of which the inner scopes cover the outer: values and
metadata are those of the maps, the names of the first are what resolves and what is visible, in
strictly increasing order, and names that a map does not have are unknown.  A scope that is made
inside has the same values. -/
theorem answers_merged (present : b < s.forest.size) :
    let values := s.forest.overlay (fun e => some e.value) b
    let annotations := s.forest.overlay (·.metadata) b
    (∀ name,
      (s.ask (.get b name)).answer = (match values name with
        | some v => .ok (.value v)
        | none => .error (.unknownVariable name)) ∧
      s.ask (.resolves b name) = .reply (.flag (values name).isSome) ∧
      s.ask (.metadata b name) = (match annotations name with
        | some m => .reply (.metadata m)
        | none => .fail (.unknownVariable name))) ∧
    (∃ names, s.ask (.visibleNames b) = .reply (.names names) ∧ Increasing names ∧
      ∀ name, name ∈ names ↔ (values name).isSome = true) ∧
    ∀ op, MakesChild b op →
      (∀ c, s.configuration = .ok c → ∃ d, (s.step (.scope op)).2.answer = .ok (.scope d)) ∧
      ∀ d, (s.step (.scope op)).2.answer = .ok (.scope d) → ∀ name,
        ((s.step (.scope op)).1.ask (.get d name)).answer = (s.ask (.get b name)).answer := by
  intro values annotations
  have hvalues : ∀ name, s.forest.get b name = values name := Forest.get_eq_overlay s.forest b
  refine ⟨fun name => ⟨?_, ?_, ?_⟩, ⟨s.forest.visibleNames b, ask_visibleNames present,
    Forest.increasing_visibleNames s.forest b, fun name => ?_⟩, fun op makes =>
    ⟨fun c known => makes.answered present known, fun d made => makes.answer_get present made⟩⟩
  · rw [answer_get present, hvalues]
  · rw [ask_resolves present, Forest.resolves_eq_get, hvalues]
  · have hanswer := ask_metadata present name
    rw [Forest.metadata_eq_overlay] at hanswer
    exact hanswer
  · rw [Forest.mem_visibleNames_iff_get, hvalues]

def covered : Session := (start ⟨[], none⟩).afterAll [
  .op (.scope (.create none)),
  .op (.scope (.set 0 "x" (.int 1) (some [(.text "unit", .text "m")]))),
  .op (.scope (.set 0 "y" (.int 2) none)),
  .op (.scope (.child 0)), .op (.scope (.set 1 "x" .null none)),
  .op (.scope (.child 1)), .op (.scope (.set 2 "" (.int 3) none))]

/-- In the innermost scope null is answered with the metadata of the global scope, and so is null
in a scope inside it. -/
theorem covered_answers :
    (covered.ask (.get 2 "x")).answer = .ok (.value .null) ∧
      covered.ask (.metadata 2 "x") = .reply (.metadata [(.text "unit", .text "m")]) ∧
      covered.ask (.metadata 2 "") = .fail (.unknownVariable "") ∧
      covered.ask (.resolves 2 "z") = .reply (.flag false) ∧
      (∃ names, covered.ask (.visibleNames 2) = .reply (.names names) ∧ Increasing names ∧
        "" ∈ names ∧ "z" ∉ names) ∧
      ∃ d, (covered.step (.scope (.child 2))).2.answer = .ok (.scope d) ∧
        ((covered.step (.scope (.child 2))).1.ask (.get d "x")).answer = .ok (.value .null) := by
  have hchain : covered.forest.chain 2 = [2, 1, 0] := by decide +kernel
  have hmap : ∀ (α : Type) (look : Entry → Option α), covered.forest.overlay look 2 =
      bindAll (bindAll (bindAll (fun _ => none)
        (Entry.pairs look [⟨"x", .int 1, some [(.text "unit", .text "m")]⟩, ⟨"y", .int 2, none⟩]))
        (Entry.pairs look [⟨"x", .null, none⟩])) (Entry.pairs look [⟨"", .int 3, none⟩]) := by
    intro α look
    rw [Forest.overlay, hchain]
    rfl
  obtain ⟨hnames, ⟨names, hvisible, hincreasing, hmem⟩, hchild⟩ :=
    answers_merged (s := covered) (b := 2) (by decide)
  simp only [hmap] at hnames hmem
  obtain ⟨hget, -, hmetadata⟩ := hnames "x"
  obtain ⟨hmade, hsame⟩ := hchild _ .child
  obtain ⟨d, hd⟩ := hmade _ rfl
  refine ⟨hget, hmetadata, (hnames "").2.2, (hnames "z").2.1, ⟨names, hvisible, hincreasing,
    (hmem "").mpr rfl, fun h => ?_⟩, d, hd, (hsame d hd "x").trans hget⟩
  exact absurd ((hmem "z").mp h) (by decide)

end Session
end ScopeChain
