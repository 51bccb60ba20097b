/-
Korean sets of characters of several bytes: EUC-KR, code page 949 and Johab.

A syllable has a first consonant, a vowel and, if it has one, a last consonant, and all
syllables stand in the order of these.  EUC-KR has the syllables of KS X 1001 and spells the
others by their letters.  Code page 949 has the others as pairs, in their order.  Johab has
syllables by the numbers of their letters.
-/
import ScopeChain.Text.Multibyte.Ksx1001
import ScopeChain.Text.Multibyte.Step

namespace ScopeChain
namespace Multibyte

/-- The consonants that a syllable begins with, in order. -/
def firstLetters : List Char := "ㄱㄲㄴㄷㄸㄹㅁㅂㅃㅅㅆㅇㅈㅉㅊㅋㅌㅍㅎ".toList

/-- The consonants that a syllable ends with, in order. -/
def lastLetters : List Char := "ㄱㄲㄳㄴㄵㄶㄷㄹㄺㄻㄼㄽㄾㄿㅀㅁㅂㅄㅅㅆㅇㅈㅊㅋㅌㅍㅎ".toList

/-- The vowels by their numbers, as letters. -/
def vowel (n : Nat) : Char := Char.ofNat (0x314F + n)

/-- The syllable of a first consonant, a vowel and a last consonant, where the last of these
is 0 if there is none. -/
def syllable (first middle last : Nat) : Char :=
  Char.ofNat (0xAC00 + first * 588 + middle * 28 + last)

def ksGrid : Unit → Grid := fun _ => .ofStretches 94 94 ksx1001

/-- The cell of two bytes above 0xA0. -/
def ksCell? (g : Grid) (a b : Nat) : Option Char :=
  if 0xA1 ≤ a ∧ 0xA1 ≤ b then g.get? (a - 0xA1) (b - 0xA1) else none

/-! ## EUC-KR -/

/-- The consonant or vowel of a byte behind 0xA4. -/
def ksLetter (b : Nat) : Char := Char.ofNat (0x3131 + (b - 0xA1))

/-- The syllable that three letters spell by the bytes behind 0xA4. -/
def spelled? (first middle last : Nat) : Option Char :=
  let start := firstLetters.idxOf (ksLetter first)
  let stop := if last = 0xD4 then 0 else lastLetters.idxOf (ksLetter last) + 1
  if 0xA1 ≤ first ∧ start < firstLetters.length ∧ 0xBF ≤ middle ∧ middle ≤ 0xD3 ∧
      (last = 0xD4 ∨ 0xA1 ≤ last) ∧ stop ≤ lastLetters.length then
    some (syllable start (middle - 0xBF) stop)
  else none

/-- A step in EUC-KR.  The filler of KS X 1001 begins a syllable of eight bytes. -/
def eucKrStep (g : Grid) (bytes : List UInt8) : Step Unit :=
  match bytes.map (·.toNat) with
  | 0xA4 :: 0xD4 :: a :: first :: b :: middle :: c :: last :: _ =>
    if a = 0xA4 ∧ b = 0xA4 ∧ c = 0xA4 then .ofFound 8 ((spelled? first middle last).map ([·]))
    else .refuse 1
  | 0xA4 :: 0xD4 :: _ => .more
  | _ => pairStep ascii (fun a b => .ofFound 2 ((ksCell? g a b).map ([·]))) bytes

def decodeEucKr (bytes : List UInt8) : Except Refused (List Char) :=
  let g := ksGrid ()
  decodeBy (fun bytes => eucKrStep g (bytes.take 8)) bytes

/-! ## Code page 949 -/

/-- The column of a second byte that is no digit or sign. -/
def uhcColumn? (b : Nat) : Option Nat :=
  if 0x41 ≤ b ∧ b ≤ 0x5A then some (b - 0x41)
  else if 0x61 ≤ b ∧ b ≤ 0x7A then some (b - 0x61 + 26)
  else if 0x81 ≤ b ∧ b < 0xFF then some (b - 0x81 + 52)
  else none

/-- The place of two bytes among the syllables that KS X 1001 has not. -/
def uhcPlace? (a b : Nat) : Option Nat :=
  match uhcColumn? b with
  | none => none
  | some column =>
    if 0x81 ≤ a ∧ a ≤ 0xA0 then some ((a - 0x81) * 178 + column)
    else if 0xA1 ≤ a ∧ a ≤ 0xC6 ∧ column < 84 then some (32 * 178 + (a - 0xA1) * 84 + column)
    else none

/-- The syllables that a grid has not, in their order. -/
def otherSyllables (g : Grid) : Array Char :=
  let has : Array Bool := g.cells.foldl
    (fun has c => if 0xAC00 ≤ c.toNat then has.setIfInBounds (c.toNat - 0xAC00) true else has)
    (Array.replicate 11172 false)
  ((List.range 11172).filter fun n => !has.getD n true).toArray.map fun n => Char.ofNat (0xAC00 + n)

def decodeCp949 (bytes : List UInt8) : Except Refused (List Char) :=
  let g := ksGrid ()
  let others := otherSyllables g
  let find (a b : Nat) : Option Char :=
    (ksCell? g a b).or ((uhcPlace? a b).bind fun place => others[place]?)
  decodeBy (pairStep ascii fun a b => .ofFound 2 ((find a b).map ([·]))) bytes

/-! ## Johab -/

/-- A letter of Johab: one with a number, or that there is none. -/
inductive Letter where
  | number (n : Nat)
  | filler

/-- The first consonant of a number. -/
def johabFirst? (n : Nat) : Option Letter :=
  if n = 1 then some .filler
  else if 2 ≤ n ∧ n ≤ 20 then some (.number (n - 2))
  else none

/-- The vowel of a number.  Numbers go on in steps of eight with six letters each. -/
def johabMiddle? (n : Nat) : Option Letter :=
  if n = 2 then some .filler
  else if n % 8 < 2 ∨ 29 < n then none
  else some (.number (n / 8 * 6 + n % 8 - 3))

/-- The last consonant of a number. -/
def johabLast? (n : Nat) : Option Letter :=
  if n = 1 then some .filler
  else if 2 ≤ n ∧ n ≤ 17 then some (.number (n - 1))
  else if 19 ≤ n ∧ n ≤ 29 then some (.number (n - 2))
  else none

/-- The character of three letters: a syllable, a letter alone, or a blank. -/
def johabSyllable? : Letter → Letter → Letter → Option Char
  | .filler, .filler, .filler => some '\u3000'
  | .filler, .filler, .number n => lastLetters[n - 1]?
  | .filler, .number n, .filler => some (vowel n)
  | .number n, .filler, .filler => firstLetters[n]?
  | .number m, .number n, .filler => some (syllable m n 0)
  | .number l, .number m, .number n => some (syllable l m n)
  | _, _, _ => none

/-- The cell of KS X 1001 that two bytes name: each first byte has two rows. -/
def johabCell? (g : Grid) (a b : Nat) : Option Char :=
  if a < 0xD9 ∨ a = 0xDF ∨ 0xF9 < a ∨ b < 0x31 ∨ (0x80 ≤ b ∧ b < 0x91) ∨ b % 0x80 = 0x7F ∨
      (a = 0xDA ∧ 0xA1 ≤ b ∧ b ≤ 0xD3) then none
  else
    let row := if a < 0xE0 then 2 * (a - 0xD9) else 2 * a - 0x197
    let column := if b < 0x91 then b - 0x31 else b - 0x43
    g.get? (row + column / 94) (column % 94)

def johab? (g : Grid) (a b : Nat) : Option Char :=
  if a < 0xD8 then
    let n := a * 256 + b
    match johabFirst? (n / 1024 % 32), johabMiddle? (n / 32 % 32), johabLast? (n % 32) with
    | some first, some middle, some last => johabSyllable? first middle last
    | _, _, _ => none
  else johabCell? g a b

def decodeJohab (bytes : List UInt8) : Except Refused (List Char) :=
  let g := ksGrid ()
  decodeBy (pairStep ascii fun a b => .ofFound 2 ((johab? g a b).map ([·]))) bytes

end Multibyte
end ScopeChain
