/-
Operations on scopes.

The metadata of a variable is given as the pairs of a dict, as they are when it is given.
-/
import ScopeChain.Session.Basic

namespace ScopeChain

inductive ScopeOp where
  | create (parent : Option ScopeId)
  /-- A global scope in which the receiver of the top level is bound. -/
  | top (selfValue : Value)
  | child (b : ScopeId)
  /-- The last of `count` scopes, each inside the one before. -/
  | descend (b : ScopeId) (count : Nat)
  | isGlobal (b : ScopeId)
  | root (b : ScopeId)
  | parent (b : ScopeId)
  | depth (b : ScopeId)
  | chain (b : ScopeId)
  | localNames (b : ScopeId)
  | visibleNames (b : ScopeId)
  | localItems (b : ScopeId)
  | describe (b : ScopeId)
  | self (b : ScopeId)
  | context (b : ScopeId)
  | get (b : ScopeId) (name : String)
  | metadata (b : ScopeId) (name : String)
  | defines (b : ScopeId) (name : String)
  | resolves (b : ScopeId) (name : String)
  | set (b : ScopeId) (name : String) (value : Value) (metadata : Option Metadata)
  | setGlobal (b : ScopeId) (name : String) (value : Value)
  deriving Repr

namespace Session

def withScope (s : Session) (b : ScopeId) (next : Session × Outcome) : Session × Outcome :=
  if b < s.forest.size then next else s.fail .absent

def addScope (s : Session) (parent : Option ScopeId) : ScopeId × Session :=
  let (b, forest) := s.forest.add parent
  (b, { s with forest })

def bind (s : Session) (b : ScopeId) (name : String) (value : Value)
    (metadata : Option Metadata) : Session :=
  { s with forest := s.forest.write b name value metadata }

/-- Scopes inside each other, `count` of them.  The answer is the last. -/
def addScopes (s : Session) (b : ScopeId) : Nat → ScopeId × Session
  | 0 => (b, s)
  | count + 1 =>
    let (c, s) := s.addScope (some b)
    addScopes s c count

/-- A lookup that answers the value.  A failing one leaves a record. -/
def lookup (s : Session) (b : ScopeId) (name : String) : Session × Outcome :=
  match s.forest.get b name with
  | some v => s.answer (.value v)
  | none =>
    (s, ⟨.error (.unknownVariable name), [.lookupFailed name (s.forest.depth b)]⟩)

/-- The record of a global write, which one made in the global scope itself does not
leave. -/
def globalWriteLog (s : Session) (b : ScopeId) (name : String) : List Record :=
  if s.forest.root b = b then [] else [.globalWrite name (s.forest.depth b)]

/-- The line that describes a scope. -/
def describe (s : Session) (b : ScopeId) : String :=
  "Binding(depth=" ++ Digits.natText (s.forest.depth b) ++ ", names=" ++
    Quoted.list (s.forest.locals b).names ++ ")"

/-- A global scope with one variable, named as the configuration says. -/
def addTop (s : Session) (c : Config) (selfValue : Value) : ScopeId × Session :=
  let (b, s) := s.addScope none
  (b, s.bind b c.selfName selfValue none)

def scopeStep (s : Session) : ScopeOp → Session × Outcome
  | .create none => s.withConfig fun s _ =>
    let (b, s) := s.addScope none
    s.answer (.scope b)
  | .create (some p) => s.withScope p <| s.withConfig fun s _ =>
    let (b, s) := s.addScope (some p)
    s.answer (.scope b)
  | .top selfValue => s.withConfig fun s c =>
    let (b, s) := s.addTop c selfValue
    s.answer (.scope b)
  | .child p => s.withScope p <| s.withConfig fun s _ =>
    let (b, s) := s.addScope (some p)
    s.answer (.scope b)
  | .descend b 0 => s.withScope b <| s.answer (.scope b)
  | .descend p (count + 1) => s.withScope p <| s.withConfig fun s _ =>
    let (b, s) := s.addScopes p (count + 1)
    s.answer (.scope b)
  | .isGlobal b => s.withScope b <| s.answer (.flag (s.forest.isGlobal b))
  | .root b => s.withScope b <| s.answer (.scope (s.forest.root b))
  | .parent b => s.withScope b <|
    match s.forest.parent? b with
    | some p => s.answer (.scope p)
    | none => s.answer .nothing
  | .depth b => s.withScope b <| s.answer (.number (s.forest.depth b))
  | .chain b => s.withScope b <| s.answer (.scopes (s.forest.chain b))
  | .localNames b => s.withScope b <| s.answer (.names (s.forest.locals b).names)
  | .visibleNames b => s.withScope b <| s.answer (.names (s.forest.visibleNames b))
  | .localItems b => s.withScope b <| s.answer (.items (s.forest.locals b).entries)
  | .describe b => s.withScope b <| s.answer (.text (s.describe b))
  | .self b => s.withScope b <| s.withConfig fun s c => s.lookup b c.selfName
  | .context b => s.withScope b <| s.withConfig fun s c => s.lookup b c.contextName
  | .get b name => s.withScope b <| s.lookup b name
  | .metadata b name => s.withScope b <|
    match s.forest.metadata b name with
    | some m => s.answer (.metadata m)
    | none => s.fail (.unknownVariable name)
  | .defines b name => s.withScope b <| s.answer (.flag ((s.forest.locals b).defines name))
  | .resolves b name => s.withScope b <| s.answer (.flag (s.forest.resolves b name))
  | .set b name value metadata => s.withScope b <|
    (s.bind b name value (metadata.map dictOf), .reply (.scope b))
  | .setGlobal b name value => s.withScope b <|
    (s.bind (s.forest.root b) name value none,
      ⟨.ok (.scope (s.forest.root b)), s.globalWriteLog b name⟩)

end Session
end ScopeChain
