/-
References in settings files.

`${NAME}` in a value stands for the value of a name, and `${NAME:-text}` for the text if
the name has none.  Names are looked up among the assignments above, then in the
environment.
-/
import ScopeChain.Settings.File
import ScopeChain.Settings.Table

namespace ScopeChain
namespace Settings

/-- A reference: its name and what stands for a name that is not found. -/
structure Reference where
  name : String
  default : String
  deriving DecidableEq, Repr

/-- The reference at the front, behind its dollar sign and brace, and what follows it. -/
def readReference (cs : List Char) : Option (Reference × List Char) :=
  let (name, rest) := cs.span fun c => c ≠ '\x7d' && c ≠ ':'
  match rest with
  | '\x7d' :: rest => some (⟨String.ofList name, ""⟩, rest)
  | ':' :: '-' :: rest =>
    match rest.span (· ≠ '\x7d') with
    | (default, _ :: rest) => some (⟨String.ofList name, String.ofList default⟩, rest)
    | (_, []) => none
  | _ => none

/-- Replaces references by `resolve`.  Each step takes at least one character, so `room` for
as many steps as there are characters is enough. -/
def expand (resolve : Reference → String) : (room : Nat) → List Char → List Char
  | 0, _ => []
  | _ + 1, [] => []
  | room + 1, c :: rest =>
    match c, rest with
    | '$', '\x7b' :: body =>
      match readReference body with
      | some (r, rest) => (resolve r).toList ++ expand resolve room rest
      | none => c :: expand resolve room rest
    | _, _ => c :: expand resolve room rest

def lookUp (environment : Table String) (above : Table (Option String)) (r : Reference) :
    String :=
  match above.get? r.name with
  | some value => value.getD ""
  | none => (environment.get? r.name).getD r.default

/-- Assignments with their references replaced, behind the assignments `above`.  A name that
comes again keeps its place. -/
def expandAll (environment : Table String) (above : Table (Option String)) :
    List Assignment → Table (Option String)
  | [] => above
  | a :: rest =>
    let value := a.value.map fun v =>
      String.ofList (expand (lookUp environment above) v.length v.toList)
    expandAll environment (above.put a.name value) rest

def fileAssignments (environment : Table String) (cs : List Char) : Table (Option String) :=
  expandAll environment [] (File.read cs)

end Settings
end ScopeChain
