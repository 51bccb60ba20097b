/-
The log of a session.
-/
import ScopeChain.Text.Quoted

namespace ScopeChain

/-- What is worth a line.  Depths are those of the scope that was asked. -/
inductive Record where
  | lookupFailed (name : String) (depth : Nat)
  | globalWrite (name : String) (depth : Nat)
  | captured (scopes : Nat)
  | restored (scopes : Nat)
  deriving DecidableEq, Repr

namespace Record

/-- Lookups and writes are reported by scopes, captures and restorations by snapshots. -/
def source : Record → String
  | .lookupFailed .. | .globalWrite .. => "scriptenv.binding"
  | .captured _ | .restored _ => "scriptenv.core.serializer"

/-- Names are quoted, so that a record is one line and tells its name. -/
def message : Record → String
  | .lookupFailed name depth =>
    "Lookup failed for " ++ Quoted.text name ++ " at depth " ++ Digits.natText depth
  | .globalWrite name depth =>
    "Global write of " ++ Quoted.text name ++ " from depth " ++ Digits.natText depth
  | .captured scopes => "Captured snapshot of " ++ Digits.natText scopes ++ " scopes"
  | .restored scopes => "Restored chain of " ++ Digits.natText scopes ++ " scopes"

def line (r : Record) : String := r.source ++ " DEBUG " ++ r.message

end Record
end ScopeChain
