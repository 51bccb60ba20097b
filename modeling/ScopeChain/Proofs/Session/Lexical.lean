/-
Lexical scripts.

A lexical script runs in a new scope that binds its context and then its receiver, each under
the name that the configuration gives it.  So the script and its scope answer both, however
deep such scripts are nested, as long as the two names differ.  If they are one name, the
receiver takes the place of the context.
-/
import ScopeChain.Proofs.Session.Seen

namespace ScopeChain
namespace Session

variable {s t : Session} {id d : ScriptId} {c : Config} {script : Script} {context receiver : Value}

/-- What a lexical script is given.  Null stands for what its parent has. -/
structure Given where
  context : Value
  receiver : Value

/-- Lexical scripts, each nested in the one before: the session that has them all, and the
innermost.  There is none if one of them fails. -/
def nest (s : Session) (id : ScriptId) : List Given → Option (Session × ScriptId)
  | [] => some (s, id)
  | given :: inner =>
    match s.step (.script (.child id true given.context given.receiver)) with
    | (t, ⟨.ok (.script d), _⟩) => t.nest d inner
    | _ => none

def askScript (s : Session) (op : ScriptOp) : Outcome := (s.step (.script op)).2

/-- Whether a value is the last that is given, or else the one that was answered before. -/
def Settles (given : List Value) (before : Outcome) (v : Value) : Prop :=
  match (given.filter isGiven).getLast? with
  | some last => v = last
  | none => before = .reply (.value v)

/-! ## One script -/

/-- A script that runs in a scope of its own, in which its context and its receiver are bound. -/
structure Runs (s : Session) (c : Config) (id : ScriptId) (context receiver : Value) (b : ScopeId) :
    Prop where
  kept : s.config = some c
  found : s.scripts[id]? = some ⟨b, context⟩
  present : b < s.forest.size
  self : s.forest.get b c.selfName = some receiver
  context : s.forest.get b c.contextName =
    some (if c.contextName = c.selfName then receiver else context)

def Receives (s : Session) (c : Config) (b : ScopeId) (given receiver : Value) : Prop :=
  if isGiven given then receiver = given else s.forest.get b c.selfName = some receiver

theorem get_of_locals {f : Forest} {b : ScopeId} {name : String} {v : Value}
    (bound : (f.locals b).value? name = some v) : f.get b name = some v := by
  rw [Forest.get, Forest.chain_eq, List.findSome?_cons, bound]

theorem locals_addLexical (s : Session) (c : Config) (b : ScopeId) (context receiver : Value) :
    (s.addLexical c b context receiver).2.forest.locals s.forest.size =
      (Locals.empty.set c.contextName context none).set c.selfName receiver none := by
  have hadded : (s.forest.add (some b)).2.locals s.forest.size = .empty :=
    Forest.locals_add_self s.forest (some b)
  have lt : s.forest.size < (s.forest.add (some b)).2.size := by
    rw [Forest.size_add]
    exact Nat.lt_succ_self _
  have hwritten : s.forest.size <
      ((s.forest.add (some b)).2.write s.forest.size c.contextName context none).size := by
    rw [Forest.size_write]
    exact lt
  show (((s.forest.add (some b)).2.write s.forest.size c.contextName context none).write
    s.forest.size c.selfName receiver none).locals s.forest.size = _
  rw [Forest.locals_write_self hwritten, Forest.locals_write_self lt, hadded]

def lexical (s : Session) (c : Config) (b : ScopeId) (context receiver : Value) :
    Session × Outcome :=
  ({ s with config := some c }.addLexical c b context receiver).2.addScript ⟨s.forest.size, context⟩

/-- A lexical script is made whenever there is a receiver for it. -/
theorem child_of_receives (found : s.scripts[id]? = some script)
    (known : s.configuration = .ok c) {given : Value}
    (receives : s.Receives c script.scope given receiver) :
    s.step (.script (.child id true context given)) =
      s.lexical c script.scope (if isGiven context then context else script.context) receiver := by
  show s.withScript id _ = _
  rw [withScript, found]
  simp only [if_true]
  rw [withReceiver]
  rw [Receives] at receives
  split at receives
  next hgiven =>
    subst receives
    rw [if_pos hgiven, withConfig_of_ok known]
    rfl
  next hmissing =>
    rw [if_neg hmissing, withConfig_of_ok known]
    simp only [receives]
    rw [withConfig_of_ok (configuration_of_kept rfl)]
    rfl

/-- A lexical script that is made has a parent and a receiver. -/
theorem receives_of_child {given : Value} {o : Outcome} (known : s.configuration = .ok c)
    (step : s.step (.script (.child id true context given)) = (t, o)) {r : Reply}
    (made : o.answer = .ok r) :
    ∃ script receiver, s.scripts[id]? = some script ∧
      s.Receives c script.scope given receiver := by
  have hmade : (s.step (.script (.child id true context given))).2.answer = .ok r := by
    rw [step]
    exact made
  replace hmade : (s.withScript id _).2.answer = .ok r := hmade
  rw [withScript] at hmade
  cases hfound : s.scripts[id]? with
  | none =>
    rw [hfound] at hmade
    cases hmade
  | some script =>
    by_cases hgiven : isGiven given
    · exact ⟨script, given, rfl, by rw [Receives, if_pos hgiven]⟩
    · rw [hfound] at hmade
      simp only [if_true, withReceiver] at hmade
      rw [if_neg hgiven, withConfig_of_ok known] at hmade
      cases hget : s.forest.get script.scope c.selfName with
      | none =>
        simp only [lookup, hget] at hmade
        cases hmade
      | some v => exact ⟨script, v, rfl, by rw [Receives, if_neg hgiven, hget]⟩

/-- A new lexical script answers what was bound in its scope. -/
theorem runs_lexical (s : Session) (c : Config) (b : ScopeId) (context receiver : Value) :
    (s.lexical c b context receiver).1.Runs c s.scripts.size context receiver s.forest.size where
  kept := rfl
  found := Array.getElem?_push_size
  present := by
    show s.forest.size < (((s.forest.add (some b)).2.write ..).write ..).size
    rw [Forest.size_write, Forest.size_write, Forest.size_add]
    exact Nat.lt_succ_self _
  self := by
    refine get_of_locals ?_
    show ((({ s with config := some c } : Session).addLexical c b context receiver).2.forest.locals
      s.forest.size).value? c.selfName = _
    rw [locals_addLexical { s with config := some c }, Locals.value?_set_self]
  context := by
    refine get_of_locals ?_
    show ((({ s with config := some c } : Session).addLexical c b context receiver).2.forest.locals
      s.forest.size).value? c.contextName = _
    rw [locals_addLexical { s with config := some c }]
    split
    next same => rw [same, Locals.value?_set_self]
    next differ => rw [Locals.value?_set_of_ne _ _ _ differ, Locals.value?_set_self]

/-! ## Scripts nested in each other -/

theorem Runs.child {b : ScopeId} (runs : s.Runs c id context receiver b) (given : Given) :
    ∃ t d b', s.step (.script (.child id true given.context given.receiver)) =
        (t, .reply (.script d)) ∧
      t.Runs c d (if isGiven given.context then given.context else context)
        (if isGiven given.receiver then given.receiver else receiver) b' := by
  have hreceives : s.Receives c b given.receiver
      (if isGiven given.receiver then given.receiver else receiver) := by
    rw [Receives]
    split
    next => rfl
    next => exact runs.self
  exact ⟨_, _, _, child_of_receives runs.found (configuration_of_kept runs.kept) hreceives,
    runs_lexical ..⟩

def settled (before : Value) (given : List Value) : Value :=
  given.foldl (fun v w => if isGiven w then w else v) before

theorem settled_eq (before : Value) (given : List Value) :
    settled before given = ((given.filter isGiven).getLast?).getD before := by
  induction given generalizing before with
  | nil => rfl
  | cons v rest ih =>
    show settled (if isGiven v then v else before) rest = _
    rw [ih, List.filter_cons]
    split
    next => rw [List.getLast?_cons, Option.getD_some]
    next => rfl

/-- What is settled behind the first value that is given depends on what was answered only if
that value is missing. -/
theorem settles_cons {v own : Value} {before : Outcome} (given : isGiven v → own = v)
    (missing : ¬ isGiven v → before = .reply (.value own)) (rest : List Value) :
    Settles (v :: rest) before (settled own rest) := by
  rw [Settles, settled_eq, List.filter_cons]
  split
  next last hlast =>
    split at hlast
    next hgiven =>
      rw [List.getLast?_cons] at hlast
      rw [given hgiven]
      exact Option.some.inj hlast
    next => rw [hlast, Option.getD_some]
  next hnone =>
    split at hnone
    next => simp at hnone
    next hmissing => rw [hnone, Option.getD_none, missing hmissing]

/-- So are all scripts nested in it.  Each has the last context and the last receiver given. -/
theorem Runs.nest {b : ScopeId} (runs : s.Runs c id context receiver b) (inner : List Given) :
    ∃ t d b', s.nest id inner = some (t, d) ∧
      t.Runs c d (settled context (inner.map Given.context))
        (settled receiver (inner.map Given.receiver)) b' := by
  induction inner generalizing s id context receiver b with
  | nil => exact ⟨s, id, b, rfl, runs⟩
  | cons given inner ih =>
    obtain ⟨t, d, b', hstep, hruns⟩ := runs.child given
    obtain ⟨u, e, b'', hnest, hruns⟩ := ih hruns
    refine ⟨u, e, b'', ?_, hruns⟩
    rw [Session.nest, hstep]
    exact hnest

/-! ## What is answered -/

theorem askScript_context (found : s.scripts[id]? = some script) :
    s.askScript (.context id) = .reply (.value script.context) := by
  show (s.withScript id _).2 = _
  rw [withScript, found]
  rfl

theorem askScript_scope (found : s.scripts[id]? = some script) :
    s.askScript (.scope id) = .reply (.scope script.scope) := by
  show (s.withScript id _).2 = _
  rw [withScript, found]
  rfl

theorem askScript_self (found : s.scripts[id]? = some script) (known : s.configuration = .ok c)
    {v : Value} (bound : s.forest.get script.scope c.selfName = some v) :
    s.askScript (.self id) = .reply (.value v) := by
  show (s.withScript id _).2 = _
  rw [withScript, found]
  simp only
  rw [withConfig_of_ok known]
  simp only [lookup, bound]
  rfl

theorem ask_self {b : ScopeId} (present : b < s.forest.size) (known : s.configuration = .ok c)
    {v : Value} (bound : s.forest.get b c.selfName = some v) :
    s.ask (.self b) = .reply (.value v) := by
  rw [ask_of_present present (show s.scopeStep (.self b) = _ from rfl), withConfig_of_ok known]
  simp only [lookup, bound]
  rfl

theorem ask_context {b : ScopeId} (present : b < s.forest.size) (known : s.configuration = .ok c)
    {v : Value} (bound : s.forest.get b c.contextName = some v) :
    s.ask (.context b) = .reply (.value v) := by
  rw [ask_of_present present (show s.scopeStep (.context b) = _ from rfl), withConfig_of_ok known]
  simp only [lookup, bound]
  rfl

/-- Whether a script answers its context and its receiver and its scope the receiver, and
under the name of the context another value. -/
structure Answers (s : Session) (id : ScriptId) (context receiver bound : Value) : Prop where
  context : s.askScript (.context id) = .reply (.value context)
  self : s.askScript (.self id) = .reply (.value receiver)
  scope : ∃ b, s.askScript (.scope id) = .reply (.scope b) ∧
    s.ask (.self b) = .reply (.value receiver) ∧ s.ask (.context b) = .reply (.value bound)

theorem Runs.answers {b : ScopeId} (runs : s.Runs c id context receiver b) :
    s.Answers id context receiver
      (if c.contextName = c.selfName then receiver else context) where
  context := askScript_context runs.found
  self := askScript_self runs.found (configuration_of_kept runs.kept) runs.self
  scope := ⟨b, askScript_scope runs.found,
    ask_self runs.present (configuration_of_kept runs.kept) runs.self,
    ask_context runs.present (configuration_of_kept runs.kept) runs.context⟩

/-- A lexical script that is made answers the context and the receiver that it was given, or
those of its parent, and so do all lexical scripts that are nested in it, to any depth, all of
which are made.  The scope of each answers the same receiver.  It answers the same context if
the configuration has two names for the two, and the receiver in its place if it has one. -/
theorem lexical_answers {log : List Record} (known : s.configuration = .ok c) (given : Given)
    (made : s.step (.script (.child id true given.context given.receiver)) =
      (t, ⟨.ok (.script d), log⟩)) (inner : List Given) :
    ∃ u e context receiver, t.nest d inner = some (u, e) ∧
      Settles ((given :: inner).map Given.context) (s.askScript (.context id)) context ∧
      Settles ((given :: inner).map Given.receiver) (s.askScript (.self id)) receiver ∧
      u.Answers e context receiver
        (if c.contextName = c.selfName then receiver else context) := by
  obtain ⟨script, own, hfound, hown⟩ := receives_of_child known made rfl
  have hstep : _ = s.lexical c script.scope
      (if isGiven given.context then given.context else script.context) own :=
    child_of_receives hfound known hown
  have hruns := runs_lexical s c script.scope
    (if isGiven given.context then given.context else script.context) own
  rw [made] at hstep
  obtain ⟨rfl, ho⟩ := Prod.mk.inj hstep
  obtain rfl : d = s.scripts.size := by
    injection ho with ho
    injection ho with ho
    injection ho
  obtain ⟨u, e, b, hnest, hruns⟩ := hruns.nest inner
  refine ⟨u, e, _, _, hnest, settles_cons (fun h => if_pos h) (fun h => ?_) _,
    settles_cons (fun h => ?_) (fun h => ?_) _, hruns.answers⟩
  · rw [askScript_context hfound, if_neg h]
  · rw [Receives, if_pos h] at hown
    exact hown
  · rw [Receives, if_neg h] at hown
    exact askScript_self hfound known hown

def topScript : Session := (start ⟨[], none⟩).afterAll
  [.op (.script (.build (.int 1) (.text "c")))]

/-- Three scripts in each other, of which the second is given nothing and the third a context. -/
theorem topScript_lexical :
    ∃ t u e, topScript.step (.script (.child 0 true .null (.int 2))) =
        (t, ⟨.ok (.script 1), []⟩) ∧
      t.nest 1 [⟨.null, .null⟩, ⟨.text "d", .null⟩] = some (u, e) ∧
      u.Answers e (.text "d") (.int 2) (.text "d") := by
  obtain ⟨c, hknown, hnames⟩ : ∃ c, topScript.configuration = .ok c ∧ c.contextName ≠ c.selfName :=
    ⟨_, rfl, by decide +kernel⟩
  have hmade : topScript.step (.script (.child 0 true .null (.int 2))) =
      (_, ⟨.ok (.script 1), []⟩) := rfl
  obtain ⟨u, e, context, receiver, hnest, hcontext, hreceiver, hanswers⟩ :=
    lexical_answers hknown ⟨.null, .int 2⟩ hmade [⟨.null, .null⟩, ⟨.text "d", .null⟩]
  obtain rfl : context = .text "d" := hcontext
  obtain rfl : receiver = .int 2 := hreceiver
  rw [if_neg hnames] at hanswers
  exact ⟨_, u, e, hmade, hnest, hanswers⟩

def oneName : Session :=
  (start ⟨[("SCRIPTENV_SELF_NAME", "x"), ("SCRIPTENV_CONTEXT_NAME", "x")], none⟩).afterAll
    [.op (.script (.build (.int 1) (.text "c")))]

/-- The scope of a lexical script then answers the receiver for the context. -/
theorem oneName_not_context :
    let r := oneName.step (.script (.child 0 true (.text "d") (.int 2)))
    oneName.Reachable ∧ r.2 = .reply (.script 1) ∧
      r.1.askScript (.context 1) = .reply (.value (.text "d")) ∧
      r.1.askScript (.scope 1) = .reply (.scope 1) ∧
      r.1.ask (.context 1) = .reply (.value (.int 2)) := by
  obtain ⟨c, hknown, hnames⟩ : ∃ c, oneName.configuration = .ok c ∧ c.contextName = c.selfName :=
    ⟨_, rfl, by decide +kernel⟩
  obtain ⟨script, hfound⟩ := Option.isSome_iff_exists.mp
    (show oneName.scripts[0]?.isSome = true by decide +kernel)
  have hreceives : oneName.Receives c script.scope (.int 2) (.int 2) := by
    rw [Receives, if_pos (show isGiven (.int 2) = true from rfl)]
  have hstep : oneName.step (.script (.child 0 true (.text "d") (.int 2))) =
      oneName.lexical c script.scope (.text "d") (.int 2) :=
    child_of_receives hfound hknown hreceives
  have hscripts : oneName.scripts.size = 1 := by decide +kernel
  have hforest : oneName.forest.size = 1 := by decide +kernel
  have hruns := runs_lexical oneName c script.scope (.text "d") (.int 2)
  rw [hscripts, hforest] at hruns
  have hcontext := hruns.context
  rw [if_pos hnames] at hcontext
  intro r
  rw [show r = _ from hstep]
  refine ⟨⟨_, _, rfl⟩, ?_, hruns.answers.context, askScript_scope hruns.found,
    ask_context hruns.present (configuration_of_kept hruns.kept) hcontext⟩
  show Outcome.reply (.script oneName.scripts.size) = _
  rw [hscripts]

end Session
end ScopeChain
