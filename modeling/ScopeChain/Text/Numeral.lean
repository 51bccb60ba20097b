/-
Integers in base ten, as a text spells them.

A plain numeral is zero or digits that do not begin with zero, with a minus sign or without
one.  Reading is lenient: white space around the numeral, a plus sign, zeros in front,
single underscores and a fraction of zeros are dropped before the rest is read as a plain
numeral.  The zeros in front end at the first character that is neither a zero nor an
underscore, and a minus sign may stand there as well as in front of them.
-/
import ScopeChain.Text.Blank
import ScopeChain.Text.Digits

namespace ScopeChain
namespace Numeral

/-- Why a text is no integer. -/
inductive Refusal where
  | malformed
  | tooLong
  deriving DecidableEq, Repr

/-- The most digits a plain numeral may have. -/
def digitLimit : Nat := 4300

/-- Zero alone, or digits that do not begin with zero. -/
def natural? : List Char → Option Nat
  | [] => none
  | ['0'] => some 0
  | c :: rest =>
    if c ≠ '0' && (c :: rest).all Char.isDigit && (c :: rest).length ≤ digitLimit then
      some (Digits.toNat (c :: rest))
    else none

/-- A plain numeral. -/
def plain? : List Char → Option Int
  | '-' :: rest => (natural? rest).map fun n => -(n : Int)
  | cs => (natural? cs).map fun n => (n : Int)

/-- Whether more digits are in front than a plain numeral may have. -/
def isTooLong (cs : List Char) : Bool :=
  let digits := (match cs with | '-' :: rest => rest | _ => cs).takeWhile Char.isDigit
  -- No plain numeral goes on behind a zero in front.
  digits.head? ≠ some '0' && digitLimit < digits.length

/-- What is left behind the zero or underscore `last`.  Of zeros and underscores alone it is
the last character, and in front of a point the character before the point stays. -/
def skipZeros? (last : Char) : List Char → Option (List Char)
  | [] => some [last]
  | c :: rest =>
    if c = '0' || c = '_' then skipZeros? c rest
    else if c = '.' then some (last :: c :: rest)
    else if c.isDigit || c = '-' then some (c :: rest)
    else none

/-- A text that begins with a digit, without the zeros in front. -/
def dropZeros? : List Char → Option (List Char)
  | [] => none
  | c :: rest =>
    if c = '0' then skipZeros? c rest
    else if c.isDigit then some (c :: rest)
    else none

/-- A text without its fraction, if that is one or more zeros. -/
def dropFraction (cs : List Char) : List Char :=
  match cs.span (· ≠ '.') with
  | (whole, _ :: zeros) => if !zeros.isEmpty && zeros.all (· = '0') then whole else cs
  | (_, []) => cs

/-- Whether each underscore has a neighbour on both sides that is none.  `after` tells
whether such a neighbour precedes. -/
def isGrouped (after : Bool) : List Char → Bool
  | [] => after
  | c :: rest => if c = '_' then after && isGrouped false rest else isGrouped true rest

/-- A text without underscores, if they only separate groups. -/
def dropUnderscores (cs : List Char) : List Char :=
  if isGrouped false cs then cs.filter (· ≠ '_') else cs

/-- The plain numeral that a text without white space around it stands for. -/
def tidy? : List Char → Option (List Char)
  | '+' :: rest => body? rest
  | '-' :: rest => (body? rest).map fun cs => '-' :: cs
  | cs => body? cs
where
  body? (cs : List Char) : Option (List Char) :=
    (dropZeros? cs).map fun cs => dropUnderscores (dropFraction cs)

/-- The integer that a text spells. -/
def read (cs : List Char) : Except Refusal Int :=
  if isTooLong cs then .error .tooLong
  else
    match (tidy? (Blank.trim cs)).bind plain? with
    | some i => .ok i
    | none => .error .malformed

theorem natural?_zero_cons {c : Char} {cs : List Char} : natural? ('0' :: c :: cs) = none := by
  simp [natural?]

/-- Without underscores there is nothing to drop. -/
theorem dropUnderscores_of_not_mem {cs : List Char} (h : '_' ∉ cs) :
    dropUnderscores cs = cs := by
  unfold dropUnderscores
  split
  · rw [List.filter_eq_self]
    intro c hc
    have hne : c ≠ '_' := fun e => h (e ▸ hc)
    simpa using hne
  · rfl

end Numeral
end ScopeChain
