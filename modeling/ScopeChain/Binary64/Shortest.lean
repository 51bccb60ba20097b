/-
The shortest decimal text of a number.

The reals that round to a finite number form an interval, which holds its ends exactly if
the significand is even.  Of the decimal grids with one digit, two digits and so on, the
first that has a point in the interval gives the digits.  If a grid has a point there, so
does one of the two neighbours of the number itself, and only those are tried.
-/
import ScopeChain.Binary64.Basic

namespace ScopeChain
namespace Binary64

/-- The interval around a number.  `low`, `middle` and `high` are over `den`. -/
structure Reach where
  low : Nat
  middle : Nat
  high : Nat
  den : Nat
  closed : Bool

/-- The interval of a positive finite number. -/
def reach (m : Nat) (e : Int) : Reach :=
  -- Below a power of two the next number is half as far away as above it.
  let low := if m = twoTo 52 ∧ leastExponent < e then 4 * m - 1 else 4 * m - 2
  let up := (e - 2).toNat
  let down := (2 - e).toNat
  { low := low <<< up, middle := (4 * m) <<< up, high := (4 * m + 2) <<< up,
    den := 1 <<< down, closed := m % 2 = 0 }

/-- The interval with its unit moved to `10 ^ s`. -/
def Reach.onGrid (r : Reach) (s : Int) : Reach :=
  let up := tenTo (-s).toNat
  { r with low := r.low * up, middle := r.middle * up, high := r.high * up,
           den := r.den * tenTo s.toNat }

def Reach.holds (r : Reach) (x : Nat) : Bool :=
  if r.closed then r.low ≤ x * r.den ∧ x * r.den ≤ r.high
  else r.low < x * r.den ∧ x * r.den < r.high

/-- The neighbour of the number that a grid offers.  Of two the nearer is taken, and the
even one of two equally near. -/
def Reach.point? (r : Reach) : Option Nat :=
  let a := r.middle / r.den
  let rest := 2 * (r.middle - a * r.den)
  match r.holds a, r.holds (a + 1) with
  | true, true => some (if rest < r.den ∨ (rest = r.den ∧ a % 2 = 0) then a else a + 1)
  | true, false => some a
  | false, true => some (a + 1)
  | false, false => none

/-- How many places the number has before the point.  It is below one for 0 and less. -/
def Reach.places (r : Reach) : Int :=
  if r.den ≤ r.middle then (Digits.ofNat (r.middle / r.den)).length
  else
    match (List.range 400).find? fun j => r.den ≤ r.middle * tenTo (j + 1) with
    | some j => -(j : Int)
    | none => 0

/-- The shortest digits and the power of ten of the last of them.  Seventeen digits tell
all numbers apart. -/
def shortest (m : Nat) (e : Int) : Nat × Int :=
  let r := reach m e
  let p := r.places
  let found := (List.range 17).findSome? fun (k : Nat) =>
    let s := p - (k + 1)
    ((r.onGrid s).point?).map fun x => (x, s)
  found.getD (0, 0)

def dropZeros (ds : List Char) : List Char := (ds.reverse.dropWhile (· = '0')).reverse

/-- Digits with the point behind place `p`.  A fraction is always written, if only as one
zero. -/
def positional (ds : List Char) (p : Int) : List Char :=
  if p ≤ 0 then '0' :: '.' :: List.replicate (-p).toNat '0' ++ ds
  else
    let n := p.toNat
    if ds.length ≤ n then ds ++ List.replicate (n - ds.length) '0' ++ ['.', '0']
    else ds.take n ++ '.' :: ds.drop n

/-- Digits with the point behind the first, and the power of ten with its sign and at
least two digits. -/
def scientific (ds : List Char) (power : Int) : List Char :=
  let fraction := match ds.drop 1 with
    | [] => []
    | rest => '.' :: rest
  let size := Digits.ofNat power.natAbs
  ds.take 1 ++ fraction ++ 'e' :: (if power < 0 then '-' else '+') ::
    List.replicate (2 - size.length) '0' ++ size

/-- The text of a magnitude.  Powers of ten from -4 to 15 are written positionally. -/
def magnitudeText (m : Nat) (e : Int) : List Char :=
  if m = 0 then ['0', '.', '0']
  else
    let (x, s) := shortest m e
    let all := Digits.ofNat x
    let p : Int := all.length + s
    let ds := dropZeros all
    if -4 ≤ p - 1 ∧ p - 1 < 16 then positional ds p else scientific ds (p - 1)

/-- The shortest text that reads back as the number. -/
def chars : Binary64 → List Char
  | .nan => "nan".toList
  | .infinite negative => if negative then "-inf".toList else "inf".toList
  | .finite negative m e _ => (if negative then ['-'] else []) ++ magnitudeText m e

def text (x : Binary64) : String := String.ofList x.chars

end Binary64
end ScopeChain
