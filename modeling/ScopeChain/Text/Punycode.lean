/-
Punycode: a text as its ASCII characters and, behind the last hyphen, the others.

The digits behind the hyphen are numbers of variable length.  Each says how far to go from
the last insertion to the next, counting all places of the text for each character in turn.
-/
import ScopeChain.Text.Digits

namespace ScopeChain
namespace Punycode

/-- Why digits spell no text. -/
inductive Fault where
  /-- The digits end inside a number. -/
  | unended
  | notDigit (c : Char)
  /-- A number leads beyond the last character. -/
  | beyond (n : Nat)
  deriving DecidableEq, Repr

def Fault.message : Fault → String
  | .unended => "incomplete punicode string"
  | .notDigit c => "Invalid extended code point '" ++ String.ofList [c] ++ "'"
  | .beyond n => "Invalid character U+" ++ String.ofList (Digits.hex 0 n)

/-- The least digit that another digit follows, at place `j` of a number. -/
def threshold (j bias : Nat) : Nat := min (max (36 * (j + 1) - bias) 1) 26

/-- The value of a digit: the letters come first. -/
def digit? (c : Char) : Option Nat :=
  if 'A' ≤ c ∧ c ≤ 'Z' then some (c.toNat - 0x41)
  else if '0' ≤ c ∧ c ≤ '9' then some (c.toNat - 22)
  else none

/-- The number in front, from its place `j` on, where a digit weighs `weight`. -/
def readNumber (bias : Nat) : (j weight value : Nat) → List Char →
    Except Fault (Nat × List Char)
  | _, _, _, [] => .error .unended
  | j, weight, value, c :: rest =>
    match digit? c with
    | none => .error (.notDigit c)
    | some d =>
      let value := value + d * weight
      if d < threshold j bias then .ok (value, rest)
      else readNumber bias (j + 1) (weight * (36 - threshold j bias)) value rest

/-- Divides by 35 until at most 455 is left, and counts 36 for each division. -/
def settle : (room delta bias : Nat) → Nat
  | 0, _, bias => bias
  | room + 1, delta, bias =>
    if 455 < delta then settle room (delta / 35) (bias + 36)
    else bias + 36 * delta / (delta + 38)

/-- The bias of the next number, after a number `delta` that made a text of `length`. -/
def adapt (delta : Nat) (first : Bool) (length : Nat) : Nat :=
  let delta := if first then delta / 700 else delta / 2
  let delta := delta + delta / length
  settle delta delta 0

/-- Inserts the characters of some digits.  `place` is that behind the last insertion and
`code` the number of the last character.  Each number has a digit, so `room` for as many as
there are digits is enough. -/
def insertAll : (room : Nat) → (first : Bool) → (code place bias : Nat) → (text : List Char) →
    List Char → Except Fault (List Char)
  | 0, _, _, _, _, text, _ => .ok text
  | _ + 1, _, _, _, _, text, [] => .ok text
  | room + 1, first, code, place, bias, text, digits =>
    match readNumber bias 0 1 0 digits with
    | .error e => .error e
    | .ok (delta, rest) =>
      let places := text.length + 1
      let code := code + (place + delta) / places
      let place := (place + delta) % places
      if 0x10FFFF < code then .error (.beyond code)
      else
        let c := if code.isValidChar then Char.ofNat code else '\uFFFD'
        let text := text.take place ++ c :: text.drop place
        insertAll room false code (place + 1) (adapt delta first text.length) text rest

/-- The text that ASCII characters spell. -/
def decode (cs : List Char) : Except Fault (List Char) :=
  let digits := (cs.reverse.takeWhile (· ≠ '-')).reverse
  let base := cs.take (cs.length - digits.length - 1)
  insertAll digits.length true 0x80 0 72 base (digits.map Char.toUpper)

/-! ## Writing -/

def digitChar (d : Nat) : Char := Char.ofNat (if d < 26 then 0x61 + d else 0x30 + (d - 26))

/-- The digits of a number from place `j` on.  A number gets less with each, so `room` for one
more than the number is enough. -/
def writeNumber (bias : Nat) : (room j n : Nat) → List Char
  | 0, _, _ => []
  | room + 1, j, n =>
    let t := threshold j bias
    if n < t then [digitChar n]
    else digitChar (t + (n - t) % (36 - t)) :: writeNumber bias room (j + 1) ((n - t) / (36 - t))

/-- What is written of a text: the digits, how far it is from the last insertion, the number
of the next character, and how many characters there are. -/
structure Written where
  digits : List Char
  delta : Nat
  code : Nat
  length : Nat
  bias : Nat
  first : Bool

/-- Writes the insertions of the character of a number at one of the places of a text. -/
def writeChar (code : Nat) (w : Written) (c : Char) : Written :=
  if c.toNat < code then { w with delta := w.delta + 1 }
  else if c.toNat = code then
    { w with
      digits := w.digits ++ writeNumber w.bias (w.delta + 1) 0 w.delta
      delta := 0
      length := w.length + 1
      bias := adapt w.delta w.first (w.length + 1)
      first := false }
  else w

/-- Writes all insertions of the character of a number. -/
def writeCode (cs : List Char) (w : Written) (code : Nat) : Written :=
  let w := { w with delta := w.delta + (code - w.code) * (w.length + 1) }
  let w := cs.foldl (writeChar code) w
  { w with delta := w.delta + 1, code := code + 1 }

def encode (cs : List Char) : List Char :=
  let base := cs.filter (·.toNat < 0x80)
  let codes := ((cs.map (·.toNat)).filter (0x80 ≤ ·)).eraseDups.mergeSort
  let w := codes.foldl (writeCode cs) ⟨[], 0, 0x80, base.length, 72, true⟩
  (if base.isEmpty then [] else base ++ ['-']) ++ w.digits

end Punycode
end ScopeChain
