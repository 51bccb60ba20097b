/-
Scripts that are derived from one another.

From a script at the top level others are derived, from these again others, and so on, in any
order and with writes through any of them in between.  What each of them has is decided by the
calls on its way from the first script: its scope lies inside the first by as many lexical calls,
its context is the last that was given, and its receiver the last that a lexical call was given.
-/
import ScopeChain.Proofs.Scope.Chain
import ScopeChain.Proofs.Session.Accepted
import ScopeChain.Proofs.Session.Lexical

namespace ScopeChain

namespace Session

/-- How a script is derived: from which one, whether as a lexical one, and with what. -/
structure Derivation extends Given where
  parent : ScriptId
  lexical : Bool

/-! ## The tree of scripts -/

def nestings (way : List Derivation) : Nat := (way.filter (·.lexical)).length

def contextAlong (way : List Derivation) (context : Value) : Value :=
  settled context (way.map (·.context))

def receiverAlong (way : List Derivation) (receiver : Value) : Value :=
  settled receiver ((way.filter (·.lexical)).map (·.receiver))

/-- The ways to the scripts behind an operation, in the order of their making.  The first of the
scripts is `first`, and those that are derived from it follow. -/
def derive (first : ScriptId) (ways : List (List Derivation)) : ScriptOp → List (List Derivation)
  | .child id lexical context receiver =>
    match ways[id - first]? with
    | some way => ways ++ [way ++ [⟨⟨context, receiver⟩, id, lexical⟩]]
    | none => ways
  | _ => ways

def deriveAll (first : ScriptId) (ops : List ScriptOp) : List (List Derivation) :=
  ops.foldl (derive first) [[]]

/-- Operations that derive scripts, and reads and writes through scripts.  They are done on the
first script and those after it, and write other names than the one of the receiver. -/
inductive Derives (c : Config) (first : ScriptId) : ScriptOp → Prop where
  | child {id : ScriptId} {lexical : Bool} {context receiver : Value} (later : first ≤ id) :
    Derives c first (.child id lexical context receiver)
  | get {id : ScriptId} {name : String} (later : first ≤ id) : Derives c first (.get id name)
  | set {id : ScriptId} {name : String} {value : Value} (later : first ≤ id)
    (other : name ≠ c.selfName) : Derives c first (.set id name value)
  | setGlobal {id : ScriptId} {name : String} {value : Value} (later : first ≤ id)
    (other : name ≠ c.selfName) : Derives c first (.setGlobal id name value)

section Tree

variable {s t : Session} {c : Config} {first id : ScriptId} {top : ScopeId}
  {receiver context : Value} {script : Script} {way : List Derivation}
  {ways : List (List Derivation)} {op : ScriptOp}

/-- Whether a script has what the calls on its way decide.  If the last of them was not lexical,
it has the scope of its parent. -/
structure Stands (s : Session) (c : Config) (top : ScopeId) (receiver context : Value)
    (script : Script) (way : List Derivation) : Prop where
  present : script.scope < s.forest.size
  depth : s.forest.depth script.scope = nestings way
  root : s.forest.root script.scope = top
  shared : ∀ last ∈ way.getLast?, last.lexical = false →
    ∃ parent, s.scripts[last.parent]? = some parent ∧ parent.scope = script.scope
  context : script.context = contextAlong way context
  self : s.forest.get script.scope c.selfName = some (receiverAlong way receiver)

structure Tree (s : Session) (c : Config) (first : ScriptId) (top : ScopeId)
    (receiver context : Value) (ways : List (List Derivation)) : Prop where
  kept : s.config = some c
  begins : ∃ script, s.scripts[first]? = some script ∧ script.scope = top
  count : s.scripts.size = first + ways.length
  stands : ∀ (i : Nat) way, ways[i]? = some way → ∃ script, s.scripts[first + i]? = some script ∧
    s.Stands c top receiver context script way

/-! ## Steps -/

structure Later (s t : Session) (c : Config) : Prop where
  forest : s.forest.Extends t.forest
  scripts : ∀ (id : ScriptId) (script : Script),
    s.scripts[id]? = some script → t.scripts[id]? = some script
  self : ∀ b < s.forest.size, t.forest.get b c.selfName = s.forest.get b c.selfName

theorem Stands.later (stands : s.Stands c top receiver context script way) (later : s.Later t c) :
    t.Stands c top receiver context script way := by
  have hchain : t.forest.chain script.scope = s.forest.chain script.scope :=
    later.forest.chain stands.present
  refine ⟨Nat.lt_of_lt_of_le stands.present later.forest.size, ?_, ?_, fun last hlast shares => ?_,
    stands.context, (later.self _ stands.present).trans stands.self⟩
  · rw [← stands.depth, Forest.depth, Forest.depth, Forest.enclosing, Forest.enclosing, hchain]
  · rw [← stands.root, Forest.root, Forest.root, hchain]
  · obtain ⟨parent, hparent, hscope⟩ := stands.shared last hlast shares
    exact ⟨parent, later.scripts _ parent hparent, hscope⟩

theorem Tree.found_or_absent (tree : s.Tree c first top receiver context ways)
    (later : first ≤ id) :
    (∃ script way, s.scripts[id]? = some script ∧ ways[id - first]? = some way ∧
      s.Stands c top receiver context script way) ∨
    (s.scripts[id]? = none ∧ ways[id - first]? = none) := by
  cases hway : ways[id - first]? with
  | some way =>
    obtain ⟨script, hfound, hstands⟩ := tree.stands _ way hway
    rw [Nat.add_sub_cancel' later] at hfound
    exact Or.inl ⟨script, way, hfound, rfl, hstands⟩
  | none =>
    have hlength := List.getElem?_eq_none_iff.mp hway
    refine Or.inr ⟨Array.getElem?_eq_none ?_, rfl⟩
    rw [tree.count]
    exact Nat.add_le_of_le_sub' later hlength

theorem Tree.later (tree : s.Tree c first top receiver context ways) (later : s.Later t c)
    (kept : t.config = s.config) (scripts : t.scripts = s.scripts) :
    t.Tree c first top receiver context ways where
  kept := kept.trans tree.kept
  begins := tree.begins.imp fun script h => ⟨later.scripts _ script h.1, h.2⟩
  count := by rw [scripts, tree.count]
  stands i way hway := by
    obtain ⟨script, hfound, hstands⟩ := tree.stands i way hway
    exact ⟨script, later.scripts _ script hfound, hstands.later later⟩

theorem Tree.push (tree : s.Tree c first top receiver context ways) (later : s.Later t c)
    (kept : t.config = s.config) (scripts : t.scripts = s.scripts.push script)
    (stands : t.Stands c top receiver context script way) :
    t.Tree c first top receiver context (ways ++ [way]) where
  kept := kept.trans tree.kept
  begins := tree.begins.imp fun script h => ⟨later.scripts _ script h.1, h.2⟩
  count := by
    rw [scripts, Array.size_push, tree.count, List.length_append, List.length_singleton,
      Nat.add_assoc]
  stands i other hother := by
    by_cases hi : i < ways.length
    · rw [List.getElem?_append_left hi] at hother
      obtain ⟨script, hfound, hstands⟩ := tree.stands i other hother
      exact ⟨script, later.scripts _ script hfound, hstands.later later⟩
    · obtain ⟨hlt, -⟩ := List.getElem?_eq_some_iff.mp hother
      obtain rfl : i = ways.length := by
        rw [List.length_append, List.length_singleton] at hlt
        omega
      obtain rfl : way = other := by simpa using hother
      refine ⟨script, ?_, stands⟩
      rw [scripts, ← tree.count, Array.getElem?_push_size]

/-- A write of another name changes no receiver. -/
theorem later_written {w : Write} (present : w.scope < s.forest.size)
    (other : w.name ≠ c.selfName) : s.Later (s.written w) c where
  forest := .write ..
  scripts _ _ found := found
  self _ _ := Forest.get_write_of_not present fun h => other h.1.symm

theorem Tree.bind {b : ScopeId} {w : Write} (tree : s.Tree c first top receiver context ways)
    (binds : s.Binds (.script op) b w) (present : b < s.forest.size)
    (other : w.name ≠ c.selfName) :
    (s.step (.script op)).1.Tree c first top receiver context ways := by
  have htarget : w.scope < s.forest.size :=
    Nat.lt_of_le_of_lt (Forest.le_of_mem_chain binds.target_mem_chain) present
  rw [binds.step]
  exact tree.later (later_written htarget other) rfl rfl

/-! ## Derived scripts -/

section Way

variable (way : List Derivation) (d : Derivation)

theorem nestings_append : nestings (way ++ [d]) = nestings way + if d.lexical then 1 else 0 := by
  rw [nestings, List.filter_append, List.length_append]
  cases h : d.lexical <;> simp [nestings, h]

theorem contextAlong_append (context : Value) : contextAlong (way ++ [d]) context =
    if isGiven d.context then d.context else contextAlong way context := by
  rw [contextAlong, List.map_append]
  exact List.foldl_append

theorem receiverAlong_append (receiver : Value) : receiverAlong (way ++ [d]) receiver =
    if d.lexical && isGiven d.receiver then d.receiver else receiverAlong way receiver := by
  rw [receiverAlong, List.filter_append, List.map_append]
  refine List.foldl_append.trans ?_
  cases h : d.lexical <;> simp [h, receiverAlong, settled]

end Way

theorem found_addScript {other : Script} (found : s.scripts[id]? = some other) (script : Script) :
    (s.addScript script).1.scripts[id]? = some other := by
  obtain ⟨hlt, -⟩ := Array.getElem?_eq_some_iff.mp found
  show (s.scripts.push script)[id]? = some other
  rw [Array.getElem?_push, if_neg (Nat.ne_of_lt hlt), found]

theorem later_addScript {g : Forest} (within : s.forest.Within g) (script : Script) :
    s.Later ({ s with forest := g }.addScript script).1 c where
  forest := within.toExtends
  scripts _ _ found := found_addScript (s := { s with forest := g }) found script
  self _ lt := within.get lt c.selfName

/-- A script in the scope of one that stands in the tree. -/
theorem Stands.beside (stands : s.Stands c top receiver context script way) {d : Derivation}
    (shares : d.lexical = false) (found : s.scripts[d.parent]? = some script) :
    s.Stands c top receiver context ⟨script.scope, contextAlong (way ++ [d]) context⟩
      (way ++ [d]) where
  present := stands.present
  depth := by
    rw [nestings_append, shares]
    exact stands.depth
  root := stands.root
  shared last hlast _ := by
    obtain rfl : d = last := by simpa using hlast
    exact ⟨script, found, rfl⟩
  context := rfl
  self := by
    rw [receiverAlong_append, shares]
    exact stands.self

/-- A script in a scope directly inside the one of a script that stands in the tree. -/
theorem Stands.inside (stands : s.Stands c top receiver context script way) {d : Derivation}
    (nests : d.lexical = true) {b : ScopeId} (present : b < s.forest.size)
    (parent : s.forest.parent? b = some script.scope)
    (self : s.forest.get b c.selfName = some (receiverAlong (way ++ [d]) receiver)) :
    s.Stands c top receiver context ⟨b, contextAlong (way ++ [d]) context⟩ (way ++ [d]) where
  present := present
  depth := by
    rw [nestings_append, nests, ← stands.depth]
    exact Forest.depth_of_parent parent
  root := by
    have hmem : script.scope ∈ s.forest.chain b := by
      rw [Forest.chain_of_parent parent]
      exact List.mem_cons_of_mem _ (Forest.mem_chain_self ..)
    rw [← stands.root, Forest.root_of_mem_chain hmem]
  shared last hlast shares := by
    obtain rfl : d = last := by simpa using hlast
    rw [nests] at shares
    cases shares
  context := rfl
  self := self

theorem step_shared (found : s.scripts[id]? = some script) (context receiver : Value) :
    s.step (.script (.child id false context receiver)) =
      s.addScript ⟨script.scope, if isGiven context then context else script.context⟩ := by
  show s.withScript id _ = _
  rw [withScript, found]
  rfl

theorem within_addLexical (s : Session) (c : Config) (b : ScopeId) (context receiver : Value) :
    s.forest.Within (s.addLexical c b context receiver).2.forest :=
  .writeAll _ _ [⟨c.contextName, context, none⟩, ⟨c.selfName, receiver, none⟩]
    (.add s.forest (some b)) (Nat.le_refl _)

theorem parent?_addLexical {b : ScopeId} (present : b < s.forest.size) (context receiver : Value) :
    (s.addLexical c b context receiver).2.forest.parent? s.forest.size = some b := by
  refine (Forest.parent?_writeAll _ _
    [⟨c.contextName, context, none⟩, ⟨c.selfName, receiver, none⟩] s.forest.size).trans ?_
  refine (Forest.parent?_add present s.forest.size).trans ?_
  rw [if_pos rfl]

theorem later_lexical (kept : s.config = some c) (b : ScopeId) (context receiver : Value) :
    s.Later (s.lexical c b context receiver).1 c := by
  have hkeeps : ({ s with config := some c } : Session) = s := by rw [← kept]
  rw [lexical, hkeeps]
  exact later_addScript (within_addLexical s c b context receiver) _

/-- Every call on a script of the tree derives one more. -/
theorem Tree.child (tree : s.Tree c first top receiver context ways) (d : Derivation)
    (found : s.scripts[d.parent]? = some script)
    (stands : s.Stands c top receiver context script way) :
    let r := s.step (.script (.child d.parent d.lexical d.context d.receiver))
    r.1.Tree c first top receiver context (ways ++ [way ++ [d]]) ∧
      r.2 = .reply (.script s.scripts.size) := by
  intro r
  have hcontext : (if isGiven d.context then d.context else script.context) =
      contextAlong (way ++ [d]) context := by
    rw [contextAlong_append, stands.context]
  cases hd : d.lexical with
  | false =>
    have hstep : r = s.addScript ⟨script.scope, contextAlong (way ++ [d]) context⟩ := by
      rw [← hcontext, ← step_shared found d.context d.receiver, ← hd]
    have hlater := later_addScript (c := c) (.refl s.forest)
      ⟨script.scope, contextAlong (way ++ [d]) context⟩
    have hbeside := (stands.later hlater).beside hd (hlater.scripts _ _ found)
    rw [hstep]
    exact ⟨tree.push hlater rfl rfl hbeside, rfl⟩
  | true =>
    have hreceives : s.Receives c script.scope d.receiver
        (receiverAlong (way ++ [d]) receiver) := by
      rw [Receives, receiverAlong_append, hd, Bool.true_and]
      split
      next => rfl
      next => exact stands.self
    have hstep : r = s.lexical c script.scope (contextAlong (way ++ [d]) context)
        (receiverAlong (way ++ [d]) receiver) := by
      rw [← hcontext, ← child_of_receives found (configuration_of_kept tree.kept) hreceives, ← hd]
    have hlater := later_lexical tree.kept script.scope (contextAlong (way ++ [d]) context)
      (receiverAlong (way ++ [d]) receiver)
    have hruns := runs_lexical s c script.scope (contextAlong (way ++ [d]) context)
      (receiverAlong (way ++ [d]) receiver)
    have hinside := (stands.later hlater).inside hd hruns.present
      (parent?_addLexical stands.present _ _) hruns.self
    rw [hstep]
    exact ⟨tree.push hlater tree.kept.symm rfl hinside, rfl⟩

/-! ## Runs -/

theorem step_of_absent (absent : s.scripts[id]? = none) {next : Script → Session × Outcome}
    (step : s.scriptStep op = s.withScript id next) : (s.step (.script op)).1 = s := by
  show (s.scriptStep op).1 = s
  rw [step, withScript, absent]
  rfl

/-- What the operations do to the tree: a call on one of its scripts lets it grow, and all others
leave it. -/
theorem Tree.step (tree : s.Tree c first top receiver context ways) (derives : Derives c first op) :
    (s.step (.script op)).1.Tree c first top receiver context (derive first ways op) := by
  cases derives with
  | @child id lexical given receiver' later =>
    rcases tree.found_or_absent later with ⟨script, way, hfound, hway, hstands⟩ | ⟨hnone, hway⟩
    · simp only [derive, hway]
      exact (tree.child ⟨⟨given, receiver'⟩, id, lexical⟩ hfound hstands).1
    · simp only [derive, hway]
      rw [step_of_absent hnone rfl]
      exact tree
  | @get id name later =>
    have hsame : (s.step (.script (.get id name))).1 = s := by
      cases hfound : s.scripts[id]? with
      | none => exact step_of_absent hfound rfl
      | some script =>
        show (s.withScript id fun script => s.lookup script.scope name).1 = s
        rw [withScript, hfound]
        simp only [lookup]
        split <;> rfl
    rw [hsame]
    exact tree
  | @set id name value later other =>
    rcases tree.found_or_absent later with ⟨script, way, hfound, -, hstands⟩ | ⟨hnone, -⟩
    · exact tree.bind (.scriptSet hfound) hstands.present other
    · rw [step_of_absent hnone rfl]
      exact tree
  | @setGlobal id name value later other =>
    rcases tree.found_or_absent later with ⟨script, way, hfound, -, hstands⟩ | ⟨hnone, -⟩
    · exact tree.bind (.scriptSetGlobal hfound) hstands.present other
    · rw [step_of_absent hnone rfl]
      exact tree

theorem Tree.run (tree : s.Tree c first top receiver context ways) {ops : List ScriptOp}
    (derives : ∀ op ∈ ops, Derives c first op) :
    (s.run (ops.map .script)).1.Tree c first top receiver context
      (ops.foldl (derive first) ways) := by
  induction ops generalizing s ways with
  | nil => exact tree
  | cons op ops ih =>
    exact ih (tree.step (derives op List.mem_cons_self)) fun o ho =>
      derives o (List.mem_cons_of_mem _ ho)

theorem tree_build (known : s.configuration = .ok c) (receiver context : Value) :
    let r := s.step (.script (.build receiver context))
    r.2 = .reply (.script s.scripts.size) ∧
      r.1.Tree c s.scripts.size s.forest.size receiver context [[]] := by
  have hlt : s.forest.size < (s.forest.add none).2.size := by
    rw [Forest.size_add]
    exact Nat.lt_succ_self _
  have hglobal : ((s.forest.add none).2.write s.forest.size c.selfName receiver none).parent?
      s.forest.size = none := by
    rw [Forest.parent?_write]
    exact Forest.parent?_add_self s.forest none
  have hchain := Forest.chain_of_global hglobal
  have hself : ((s.forest.add none).2.write s.forest.size c.selfName receiver none).get
      s.forest.size c.selfName = some receiver :=
    get_of_locals (by rw [Forest.locals_write_self hlt, Locals.value?_set_self])
  have hstep : s.step (.script (.build receiver context)) =
      (({ s with config := some c } : Session).addTop c receiver).2.addScript
        ⟨s.forest.size, context⟩ := withConfig_of_ok known _
  intro r
  rw [show r = _ from hstep]
  refine ⟨rfl, rfl, ⟨_, Array.getElem?_push_size, rfl⟩, Array.size_push .., fun i way hway => ?_⟩
  obtain ⟨rfl, rfl⟩ : i = 0 ∧ way = [] := by
    cases i with
    | zero => exact ⟨rfl, (Option.some.inj hway).symm⟩
    | succ i => cases hway
  refine ⟨⟨s.forest.size, context⟩, Array.getElem?_push_size, Nat.lt_of_lt_of_eq hlt
    (Forest.size_write ..).symm, ?_, ?_, fun last hlast => ?_, rfl, hself⟩
  · show (Forest.chain _ s.forest.size).tail.length = 0
    exact congrArg (·.tail.length) hchain
  · show (Forest.chain _ s.forest.size).getLastD s.forest.size = _
    exact congrArg (·.getLastD s.forest.size) hchain
  · cases hlast

end Tree

/-! ## What is answered -/

variable {s : Session} {c : Config} {first id : ScriptId} {top : ScopeId}
  {receiver context : Value} {ways : List (List Derivation)}

/-- What a script and its scope answer, by the calls on the way to the script from a first one
that runs in the scope `top` with a receiver and a context. -/
structure AnswersAlong (s : Session) (top : ScopeId) (receiver context : Value) (id : ScriptId)
    (way : List Derivation) (b : ScopeId) : Prop where
  scope : s.askScript (.scope id) = .reply (.scope b)
  depth : s.ask (.depth b) = .reply (.number (nestings way))
  root : s.ask (.root b) = .reply (.scope top)
  shared : ∀ last ∈ way.getLast?, last.lexical = false →
    s.askScript (.scope last.parent) = .reply (.scope b)
  context : s.askScript (.context id) = .reply (.value (contextAlong way context))
  self : s.askScript (.self id) = .reply (.value (receiverAlong way receiver))

theorem Stands.answers {script : Script} {way : List Derivation}
    (stands : s.Stands c top receiver context script way) (kept : s.config = some c)
    (found : s.scripts[id]? = some script) :
    s.AnswersAlong top receiver context id way script.scope where
  scope := askScript_scope found
  depth := by rw [ask_depth stands.present, stands.depth]
  root := by
    rw [← stands.root]
    exact ask_answer stands.present rfl
  shared last hlast shares := by
    obtain ⟨parent, hparent, hscope⟩ := stands.shared last hlast shares
    rw [askScript_scope hparent, hscope]
  context := by rw [askScript_context found, stands.context]
  self := askScript_self found (configuration_of_kept kept) stands.self

/-- Whatever scripts are derived from one that is built, with reads and with writes of other names
than the receiver's in between, each of them answers what the calls on its way decide.  Its scope
is inside the first script's, which is its root, as many times as there are lexical calls; it is
the very scope of its parent if it is not lexical itself.  Its context is the last that was given
on its way, and its receiver the last that a lexical call was given, or else those of the first
script.  Each call on one of the scripts succeeds and gives the next one. -/
theorem derived_answers (known : s.configuration = .ok c) (receiver context : Value)
    {ops : List ScriptOp} (derives : ∀ op ∈ ops, Derives c s.scripts.size op) :
    let first := s.scripts.size
    let built := s.step (.script (.build receiver context))
    let t := (built.1.run (ops.map .script)).1
    let ways := deriveAll first ops
    built.2 = .reply (.script first) ∧
    (∀ i < ways.length, ∀ lexical given receiver,
      t.askScript (.child (first + i) lexical given receiver) =
        .reply (.script (first + ways.length))) ∧
    ∃ top, t.askScript (.scope first) = .reply (.scope top) ∧
      ∀ (i : Nat) way, ways[i]? = some way →
        ∃ b, t.AnswersAlong top receiver context (first + i) way b := by
  obtain ⟨hbuilt, htree⟩ := tree_build known receiver context
  intro first built t ways
  have hgrown : t.Tree c first s.forest.size receiver context ways := htree.run derives
  refine ⟨hbuilt, fun i hi lexical given receiver => ?_, s.forest.size, ?_, fun i way hway => ?_⟩
  · obtain ⟨script, hfound, hstands⟩ := hgrown.stands i ways[i] (List.getElem?_eq_getElem hi)
    rw [← hgrown.count]
    exact (hgrown.child ⟨⟨given, receiver⟩, first + i, lexical⟩ hfound hstands).2
  · obtain ⟨script, hfound, hscope⟩ := hgrown.begins
    rw [askScript_scope hfound, hscope]
  · obtain ⟨script, hfound, hstands⟩ := hgrown.stands i way hway
    exact ⟨script.scope, hstands.answers hgrown.kept hfound⟩

def interleaved : List ScriptOp := [
  .child 0 true .null (.int 2), .child 1 false (.text "d") (.int 3), .set 2 "x" (.int 4),
  .child 2 true .null .null, .get 3 "x", .setGlobal 3 "x" (.int 5)]

/-- The innermost of them is two scopes inside the first script's, with the context of the one
between and the receiver of the outer one. -/
theorem interleaved_answers :
    let built := (start ⟨[], none⟩).step (.script (.build (.int 1) (.text "c")))
    let t := (built.1.run (interleaved.map .script)).1
    ∃ b d top, t.askScript (.scope 0) = .reply (.scope top) ∧
      t.askScript (.scope 3) = .reply (.scope b) ∧ t.ask (.depth b) = .reply (.number 2) ∧
      t.ask (.root b) = .reply (.scope top) ∧
      t.askScript (.context 3) = .reply (.value (.text "d")) ∧
      t.askScript (.self 3) = .reply (.value (.int 2)) ∧
      t.askScript (.scope 2) = .reply (.scope d) ∧ t.askScript (.scope 1) = .reply (.scope d) ∧
      t.askScript (.child 2 false .null .null) = .reply (.script 4) := by
  obtain ⟨c, hknown, hname⟩ : ∃ c, (start ⟨[], none⟩).configuration = .ok c ∧ "x" ≠ c.selfName :=
    ⟨_, rfl, by decide +kernel⟩
  have hderives : ∀ op ∈ interleaved, Derives c (start ⟨[], none⟩).scripts.size op := by
    have hlater : ∀ id, (start ⟨[], none⟩).scripts.size ≤ id := fun id => Nat.zero_le id
    simp only [interleaved, List.forall_mem_cons]
    exact ⟨.child (hlater 0), .child (hlater 1), .set (hlater 2) hname, .child (hlater 2),
      .get (hlater 3), .setGlobal (hlater 3) hname, fun op hop => absurd hop List.not_mem_nil⟩
  obtain ⟨-, hchild, top, htop, hanswers⟩ :=
    derived_answers hknown (.int 1) (.text "c") hderives
  obtain ⟨b, hinner⟩ := hanswers 3 _ rfl
  obtain ⟨d, hbetween⟩ := hanswers 2 _ rfl
  exact ⟨b, d, top, htop, hinner.scope, hinner.depth, hinner.root, hinner.context, hinner.self,
    hbetween.scope, hbetween.shared _ rfl rfl, hchild 2 (by decide) false .null .null⟩

end Session
end ScopeChain
