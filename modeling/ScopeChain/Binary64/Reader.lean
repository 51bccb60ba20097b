/-
Decimal texts: the longest number at the front of a text.

A number is a minus sign or none, whole digits without a leading zero, then a fraction with
at least one digit and a power of ten with at least one digit, both of which may be
missing.  A point or an `e` that no digit follows is left unread.
-/
import ScopeChain.Binary64.Basic

namespace ScopeChain
namespace Decimal

/-- A number as it is spelled. -/
structure Literal where
  negative : Bool
  whole : List Char
  fraction : List Char
  power : Option (Bool × List Char)
  deriving DecidableEq, Repr

/-- The whole digits at the front.  A zero stands alone. -/
def whole? : List Char → Option (List Char × List Char)
  | '0' :: rest => some (['0'], rest)
  | cs =>
    match cs.span Char.isDigit with
    | ([], _) => none
    | (ds, rest) => some (ds, rest)

/-- The fraction at the front, without its point. -/
def fraction (cs : List Char) : List Char × List Char :=
  match cs with
  | '.' :: rest =>
    match rest.span Char.isDigit with
    | ([], _) => ([], cs)
    | (ds, rest) => (ds, rest)
  | _ => ([], cs)

/-- A sign, if one stands at the front, and whether it is a minus. -/
def sign : List Char → Bool × List Char
  | '-' :: rest => (true, rest)
  | '+' :: rest => (false, rest)
  | cs => (false, cs)

/-- The power of ten at the front: whether it is negative, and its digits. -/
def power (cs : List Char) : Option (Bool × List Char) × List Char :=
  match cs with
  | [] => (none, [])
  | e :: rest =>
    if e = 'e' ∨ e = 'E' then
      let (negative, rest) := sign rest
      match rest.span Char.isDigit with
      | ([], _) => (none, cs)
      | (ds, rest) => (some (negative, ds), rest)
    else (none, cs)

/-- The longest number at the front of a text, and what follows it. -/
def read? (cs : List Char) : Option (Literal × List Char) :=
  let (negative, body) := match cs with
    | '-' :: rest => (true, rest)
    | _ => (false, cs)
  match whole? body with
  | none => none
  | some (whole, rest) =>
    let (fraction, rest) := fraction rest
    let (power, rest) := power rest
    some (⟨negative, whole, fraction, power⟩, rest)

def Literal.isInteger (l : Literal) : Bool := l.fraction.isEmpty && l.power.isNone

def Literal.toInt (l : Literal) : Int :=
  if l.negative then -(Digits.toNat l.whole : Int) else Digits.toNat l.whole

def Literal.toBinary64 (l : Literal) : Binary64 :=
  let power : Int := match l.power with
    | none => 0
    | some (true, ds) => -(Digits.toNat ds : Int)
    | some (false, ds) => Digits.toNat ds
  .ofDigits l.negative l.whole l.fraction power

end Decimal

namespace Binary64

def ofText? (s : String) : Option Binary64 :=
  match s with
  | "nan" => some .nan
  | "inf" => some (.infinite false)
  | "-inf" => some (.infinite true)
  | _ =>
    match Decimal.read? s.toList with
    | some (l, []) => some l.toBinary64
    | _ => none

end Binary64
end ScopeChain
