/-
Double precision numbers as exact data.

A finite number is a sign, a significand below `2 ^ 53` and the exponent of two that
scales it.  The exponent is least where the significand is below `2 ^ 52`, so every number
has one form, and the two zeros differ in their sign alone.  `ofRatio` rounds a positive
quotient to the nearest such number, and to the even significand from halfway.
-/
import ScopeChain.Text.Digits

namespace ScopeChain

namespace Binary64

def twoTo (n : Nat) : Nat := Nat.pow 2 n

def tenTo (n : Nat) : Nat := Nat.pow 10 n

/-- The least exponent, that of the subnormal numbers. -/
def leastExponent : Int := -1074

/-- The greatest exponent.  Beyond it a number is infinite. -/
def greatestExponent : Int := 971

/-- Whether a significand and an exponent are the form of a number. -/
structure Form (significand : Nat) (exponent : Int) : Prop where
  below : significand < twoTo 53
  least : leastExponent ≤ exponent
  greatest : exponent ≤ greatestExponent
  normal : twoTo 52 ≤ significand ∨ exponent = leastExponent

instance (m : Nat) (e : Int) : Decidable (Form m e) :=
  decidable_of_iff (m < twoTo 53 ∧ leastExponent ≤ e ∧ e ≤ greatestExponent ∧
      (twoTo 52 ≤ m ∨ e = leastExponent))
    ⟨fun ⟨below, least, greatest, normal⟩ => ⟨below, least, greatest, normal⟩,
      fun form => ⟨form.below, form.least, form.greatest, form.normal⟩⟩

end Binary64

inductive Binary64 where
  | nan
  | infinite (negative : Bool)
  | finite (negative : Bool) (significand : Nat) (exponent : Int)
    (form : Binary64.Form significand exponent)
  deriving DecidableEq, Repr

namespace Binary64

theorem form_zero : Form 0 leastExponent := by decide

def zero (negative : Bool) : Binary64 := .finite negative 0 leastExponent form_zero

/-- The nearest natural number to `num / den`, the even one from halfway. -/
def roundQuotient (num den : Nat) : Nat :=
  let q := num / den
  let r := num % den
  if den < 2 * r ∨ (2 * r = den ∧ q % 2 = 1) then q + 1 else q

/-- `num / den` divided by `2 ^ e`, as a fraction. -/
def scale (num den : Nat) (e : Int) : Nat × Nat :=
  if 0 ≤ e then (num, den <<< e.toNat) else (num <<< (-e).toNat, den)

/-- A rounded significand in its form. -/
def pack (negative : Bool) (significand : Nat) (exponent : Int) : Binary64 :=
  let (m, e) :=
    -- Rounding can reach `2 ^ 53`, the least normal significand one exponent up.
    if significand = twoTo 53 then (twoTo 52, exponent + 1) else (significand, exponent)
  -- What has no form is beyond the greatest exponent.
  if form : Form m e then .finite negative m e form else .infinite negative

/-- The number nearest to a positive quotient. -/
def ofRatio (negative : Bool) (num den : Nat) : Binary64 :=
  if num = 0 then zero negative
  else
    -- The logarithms leave two candidates, and the quotient at the smaller decides.
    let e := max ((num.log2 : Int) - den.log2 - 53) leastExponent
    let (n, d) := scale num den e
    let e := if twoTo 53 ≤ n / d then e + 1 else e
    let (n, d) := scale num den e
    pack negative (roundQuotient n d) e

/-- The number nearest to `digits * 10 ^ exponent`. -/
def ofDecimal (negative : Bool) (digits : Nat) (exponent : Int) : Binary64 :=
  let places : Int := (Digits.ofNat digits).length + exponent
  if digits = 0 then zero negative
  -- These magnitudes are decided by their places, so that the powers of ten stay small.
  else if 310 < places then .infinite negative
  else if places < -330 then zero negative
  else if 0 ≤ exponent then ofRatio negative (digits * tenTo exponent.toNat) 1
  else ofRatio negative digits (tenTo (-exponent).toNat)

def ofDigits (negative : Bool) (whole fraction : List Char) (power : Int) : Binary64 :=
  ofDecimal negative (Digits.toNat (whole ++ fraction)) (power - fraction.length)

/-- The integer that a number is, if it is one.  Both zeros are 0. -/
def toInt? : Binary64 → Option Int
  | .finite negative m e _ =>
    let magnitude : Option Nat :=
      if 0 ≤ e then some (m <<< e.toNat)
      else if m % twoTo (-e).toNat = 0 then some (m >>> (-e).toNat)
      else none
    magnitude.map fun n => if negative then -(n : Int) else n
  | _ => none

def isFinite : Binary64 → Bool
  | .finite .. => true
  | _ => false

/-- Numerical equality.  NaN equals nothing, and the zeros equal each other. -/
def numEq : Binary64 → Binary64 → Bool
  | .infinite s, .infinite t => s == t
  | .finite s m e _, .finite t n f _ => m == n && e == f && (s == t || m == 0)
  | _, _ => false

theorem numEq_nan (x : Binary64) : numEq .nan x = false := by cases x <;> rfl

end Binary64
end ScopeChain
