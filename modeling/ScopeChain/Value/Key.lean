/-
Keys of dicts.

A key is data that does not change, so it is told apart by what it spells and never by
where it is.  A tuple in a key holds keys.
-/
import ScopeChain.Value.Basic

namespace ScopeChain

inductive Key where
  | null
  | bool (b : Bool)
  | int (i : Int)
  | float (x : Binary64)
  | text (s : String)
  | bytes (bs : List UInt8)
  | tuple (items : List Key)
  deriving Repr, Inhabited

namespace Key

/-- A number that is an integer, or a double that is none. -/
inductive Number where
  | whole (i : Int)
  | other (x : Binary64)

/-- Booleans count as the integers 0 and 1. -/
def number? : Key → Option Number
  | .bool b => some (.whole (if b then 1 else 0))
  | .int i => some (.whole i)
  | .float x =>
    match x.toInt? with
    | some i => some (.whole i)
    | none => some (.other x)
  | _ => none

/-- Numbers are equal across their kinds. -/
def Number.same : Number → Number → Bool
  | .whole i, .whole j => i == j
  | .other x, .other y => x.numEq y
  | _, _ => false

/- Whether two spellings are one key of a dict.  Numbers go by their value and tuples by
their items. -/
mutual
def same : Key → Key → Bool
  | .null, .null => true
  | .text s, .text t => s == t
  | .bytes s, .bytes t => s == t
  | .tuple xs, .tuple ys => sameAll xs ys
  | a, b =>
    match a.number?, b.number? with
    | some m, some n => m.same n
    | _, _ => false

def sameAll : List Key → List Key → Bool
  | [], [] => true
  | x :: xs, y :: ys => same x y && sameAll xs ys
  | _, _ => false
end

theorem same_text (s t : String) : same (.text s) (.text t) = (s == t) := by
  simp [same]

end Key

/-- Descriptive attributes of a name: the pairs of a dict, in its order. -/
abbrev Metadata := List (Key × Value)

end ScopeChain
