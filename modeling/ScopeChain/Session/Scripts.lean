/-
Operations on scripts.

A nested script is lexical or not.  A lexical one runs in a new scope inside its parent's,
in which its context and its receiver are bound.  Any other shares the parent's scope.
-/
import ScopeChain.Session.Scopes

namespace ScopeChain

inductive ScriptOp where
  | create (b : ScopeId) (context : Value)
  /-- A script over a new global scope. -/
  | build (selfValue context : Value)
  /-- A nested script.  A null context or receiver means the parent's. -/
  | child (s : ScriptId) (lexical : Bool) (context selfValue : Value)
  | scope (s : ScriptId)
  | context (s : ScriptId)
  | self (s : ScriptId)
  | get (s : ScriptId) (name : String)
  | set (s : ScriptId) (name : String) (value : Value)
  | setGlobal (s : ScriptId) (name : String) (value : Value)
  deriving Repr

namespace Session

def withScript (s : Session) (id : ScriptId) (next : Script → Session × Outcome) :
    Session × Outcome :=
  match s.scripts[id]? with
  | some script => next script
  | none => s.fail .absent

/-- Whether a value is given.  Null counts as missing. -/
def isGiven : Value → Bool
  | .null => false
  | _ => true

def addScript (s : Session) (script : Script) : Session × Outcome :=
  ({ s with scripts := s.scripts.push script }, .reply (.script s.scripts.size))

/-- Goes on with the receiver: the one given, or else that of the scope. -/
def withReceiver (s : Session) (b : ScopeId) (selfValue : Value)
    (next : Session → Value → Session × Outcome) : Session × Outcome :=
  if isGiven selfValue then next s selfValue
  else
    s.withConfig fun s c =>
      match s.forest.get b c.selfName with
      | some v => next s v
      | none => s.lookup b c.selfName

/-- A scope inside `b` with context and receiver bound, in this order. -/
def addLexical (s : Session) (c : Config) (b : ScopeId) (context selfValue : Value) :
    ScopeId × Session :=
  let (d, s) := s.addScope (some b)
  (d, (s.bind d c.contextName context none).bind d c.selfName selfValue none)

def scriptStep (s : Session) : ScriptOp → Session × Outcome
  | .create b context => s.withScope b <| s.addScript ⟨b, context⟩
  | .build selfValue context => s.withConfig fun s c =>
    let (b, s) := s.addTop c selfValue
    s.addScript ⟨b, context⟩
  | .child id lexical context selfValue => s.withScript id fun script =>
    let context := if isGiven context then context else script.context
    if lexical then
      s.withReceiver script.scope selfValue fun s receiver => s.withConfig fun s c =>
        let (b, s) := s.addLexical c script.scope context receiver
        s.addScript ⟨b, context⟩
    else s.addScript ⟨script.scope, context⟩
  | .scope id => s.withScript id fun script => s.answer (.scope script.scope)
  | .context id => s.withScript id fun script => s.answer (.value script.context)
  | .self id => s.withScript id fun script => s.withConfig fun s c =>
    s.lookup script.scope c.selfName
  | .get id name => s.withScript id fun script => s.lookup script.scope name
  | .set id name value => s.withScript id fun script =>
    (s.bind script.scope name value none, .reply (.value value))
  | .setGlobal id name value => s.withScript id fun script =>
    (s.bind (s.forest.root script.scope) name value none,
      ⟨.ok (.value value), s.globalWriteLog script.scope name⟩)

end Session
end ScopeChain
