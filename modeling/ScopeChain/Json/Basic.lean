/-
JSON trees.

An object is its members in order.  `putMember` keeps names distinct: a name that comes
again takes the new value at its old place.
-/
import ScopeChain.Binary64.Basic

namespace ScopeChain

inductive Json where
  | null
  | bool (b : Bool)
  | int (i : Int)
  | float (x : Binary64)
  | text (s : String)
  | array (items : List Json)
  | object (members : List (String × Json))
  deriving Repr, Inhabited

namespace Json

/-- Writes a member: over the one of that name, or behind all members. -/
def putMember (name : String) (value : Json) : List (String × Json) → List (String × Json)
  | [] => [(name, value)]
  | (n, v) :: rest =>
    if n = name then (n, value) :: rest else (n, v) :: putMember name value rest

/-- The most digits an integer may have to be written or read. -/
def digitLimit : Nat := 4300

/- Whether an integer somewhere in the tree has more digits than are written. -/
mutual
def hasLongInteger : Json → Bool
  | .int i => digitLimit < (Digits.ofNat i.natAbs).length
  | .array items => anyLongInteger items
  | .object members => memberLongInteger members
  | _ => false

def anyLongInteger : List Json → Bool
  | [] => false
  | x :: rest => hasLongInteger x || anyLongInteger rest

def memberLongInteger : List (String × Json) → Bool
  | [] => false
  | (_, x) :: rest => hasLongInteger x || memberLongInteger rest
end

end Json
end ScopeChain
