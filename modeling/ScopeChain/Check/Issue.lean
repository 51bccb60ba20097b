/-
Findings about data that does not fit: what is wrong, and where.

A place leads from the checked value inward.  Findings are collected in the order of the
fields, and their report is one line.
-/
import ScopeChain.Value.Describe

namespace ScopeChain

/-- What is wrong with one value. -/
inductive Issue where
  | required
  | notText
  | undecodableText
  | emptyText
  | notInteger
  | integerText
  | fractional
  | notFinite
  | integerSize
  | below (least : Int)
  | above (greatest : Int)
  | notBoolean
  | booleanText
  | notDict
  | notList
  | notScope
  | notEntry
  | tooDeep
  | cyclic
  /-- The scope claims to be global and has a parent, or the reverse. -/
  | globalMismatch
  /-- The depth is not one more than the parent's. -/
  | depthMismatch (depth expected : Nat)
  deriving DecidableEq, Repr

/-- One move inward. -/
inductive Place where
  | field (name : String)
  | index (i : Nat)
  /-- The key of a dict itself, not the value under it. -/
  | key (k : Key)
  deriving Repr

structure Fault where
  place : List Place
  issue : Issue
  deriving Repr

namespace Issue

def message : Issue → String
  | .required => "Field required"
  | .notText => "Input should be a valid string"
  | .undecodableText =>
    "Input should be a valid string, unable to parse raw data as a unicode string"
  | .emptyText => "String should have at least 1 character"
  | .notInteger => "Input should be a valid integer"
  | .integerText => "Input should be a valid integer, unable to parse string as an integer"
  | .fractional => "Input should be a valid integer, got a number with a fractional part"
  | .notFinite => "Input should be a finite number"
  | .integerSize => "Unable to parse input string as an integer, exceeded maximum size"
  | .below least => "Input should be greater than or equal to " ++ Digits.intText least
  | .above greatest => "Input should be less than or equal to " ++ Digits.intText greatest
  | .notBoolean => "Input should be a valid boolean"
  | .booleanText => "Input should be a valid boolean, unable to interpret input"
  | .notDict => "Input should be a valid dictionary"
  | .notList => "Input should be a valid list"
  | .notScope => "Input should be a valid dictionary or instance of BindingSnapshot"
  | .notEntry => "Input should be a valid dictionary or instance of VariableEntry"
  | .tooDeep => "Recursion error - maximum validation depth exceeded"
  | .cyclic => "Recursion error - cyclic reference detected"
  | .globalMismatch => "Value error, exactly the parentless scope is global"
  | .depthMismatch depth expected =>
    "Value error, depth " ++ Digits.natText depth ++ " does not match chain (expected " ++
      Digits.natText expected ++ ")"

end Issue

namespace Place

/-- A key is shown by its text if it is one, a boolean by its number, and any other by its
description. -/
def parts : Place → List String
  | .field name => [name]
  | .index i => [Digits.natText i]
  | .key (.text s) => [s, "[key]"]
  | .key (.bool b) => [if b then "1" else "0", "[key]"]
  | .key k => [k.describe, "[key]"]

end Place

namespace Fault

/-- The finding, seen from one move further out. -/
def inside (p : Place) (f : Fault) : Fault := { f with place := p :: f.place }

def message (f : Fault) : String :=
  ".".intercalate (f.place.flatMap Place.parts) ++ ": " ++ f.issue.message

def report (faults : List Fault) : String := "; ".intercalate (faults.map message)

end Fault

/-- What a check gives: a value, or findings. -/
abbrev Checked (α : Type) := Except (List Fault) α

namespace Checked

def faults {α : Type} : Checked α → List Fault
  | .ok _ => []
  | .error fs => fs

def inside {α : Type} (p : Place) : Checked α → Checked α
  | .ok a => .ok a
  | .error fs => .error (fs.map (Fault.inside p))

def fail {α : Type} (issue : Issue) : Checked α := .error [⟨[], issue⟩]

@[simp]
theorem faults_ok {α : Type} (a : α) : faults (.ok a : Checked α) = [] := rfl

/-- Moving inward changes the places of findings and not their number. -/
theorem length_faults_inside {α : Type} (p : Place) (c : Checked α) :
    (c.inside p).faults.length = c.faults.length := by
  cases c <;> simp [inside, faults]

end Checked
end ScopeChain
