/-
Names of characters, as Unicode 14 has them.

Most names are listed.  Those of Korean syllables are made of the names of their letters, and
those of ideographs and of some other signs end in the number of the character.
-/
import ScopeChain.Text.CharName.Ancient
import ScopeChain.Text.CharName.Eastern
import ScopeChain.Text.CharName.Forms
import ScopeChain.Text.CharName.Others
import ScopeChain.Text.CharName.Patterns
import ScopeChain.Text.CharName.Pictured
import ScopeChain.Text.CharName.Pictures
import ScopeChain.Text.CharName.Signs
import ScopeChain.Text.CharName.Styles
import ScopeChain.Text.CharName.Syllables
import ScopeChain.Text.CharName.Western
import ScopeChain.Text.Digits
import ScopeChain.Text.Runs

namespace ScopeChain
namespace CharName

/-! ## Listed names -/

/-- The names of a row by their words, behind a name of the words `before`. -/
def rowNames (before : List (List Char)) : List (List Char) → List (List (List Char))
  | [] => []
  | [] :: rest => rowNames before rest
  | (shared :: own) :: rest =>
    let words := before.take (shared.toNat - 0x30) ++ runs (· ≠ ' ') own
    words :: rowNames words rest

/-- The code point in a row that has the words of a name. -/
def inRow? (words : List (List Char)) (row : Nat × String) : Option Nat :=
  ((rowNames [] (runs (· ≠ '|') row.2.toList)).idxOf? words).map (row.1 + ·)

def rows : List (List (Nat × String)) :=
  [western, eastern, signs, patterns, syllables, forms, ancient, pictured, styles, pictures]

/-- The code point of a listed name. -/
def listed? (name : List Char) : Option Nat :=
  let words := runs (· ≠ ' ') name
  let found := rows.findSome? (·.findSome? (inRow? words))
  let other := (others.find? (·.2.toList == name)).map (·.1)
  if [' '].intercalate words = name then found.or other else none

/-! ## Names with numbers -/

/-- What the names of ideographs begin with. -/
def ideograph : List Char := "CJK UNIFIED IDEOGRAPH-".toList

/-- The ranges of ideographs. -/
def ideographs : List (Nat × Nat) := [
  (0x3400, 0x4DBF), (0x4E00, 0x9FFF), (0x20000, 0x2A6DF), (0x2A700, 0x2B738), (0x2B740, 0x2B81D),
  (0x2B820, 0x2CEA1), (0x2CEB0, 0x2EBE0), (0x30000, 0x3134A)]

/-- Other names that end in numbers: what they begin with, and the ranges of characters. -/
def numbered : List (String × List (Nat × Nat)) := [
  ("CJK COMPATIBILITY IDEOGRAPH-", [(0xF900, 0xFA6D), (0xFA70, 0xFAD9), (0x2F800, 0x2FA1D)]),
  ("KHITAN SMALL SCRIPT CHARACTER-", [(0x18B00, 0x18CD5)]),
  ("NUSHU CHARACTER-", [(0x1B170, 0x1B2FB)])]

/-- The number of four or five digits. -/
def number? (digits : List Char) : Option Nat :=
  if digits.length = 4 ∨ digits.length = 5 then
    digits.foldl
      (fun n c => n.bind fun n =>
        if c.isLower then none else (Digits.hexValue? c).map (n * 16 + ·))
      (some 0)
  else none

/-- The number behind what names begin with, if it is in one of some ranges. -/
def behind? (front : List Char) (ranges : List (Nat × Nat)) (name : List Char) : Option Nat :=
  if front.isPrefixOf name then
    (number? (name.drop front.length)).filter fun n =>
      ranges.any fun (first, last) => first ≤ n && n ≤ last
  else none

/-- The code point of a name that ends in its number, which begins with no zero. -/
def numbered? (name : List Char) : Option Nat :=
  numbered.findSome? fun (front, ranges) =>
    if (name.drop front.length).head? = some '0' then none
    else behind? front.toList ranges name

/-! ## Korean syllables -/

def syllable : List Char := "HANGUL SYLLABLE ".toList

/-- The names of first consonants, of vowels and of last consonants, in order. -/
def firstNames : List String :=
  ["G", "GG", "N", "D", "DD", "R", "M", "B", "BB", "S", "SS", "", "J", "JJ", "C", "K", "T", "P", "H"]

def vowelNames : List String :=
  ["A", "AE", "YA", "YAE", "EO", "E", "YEO", "YE", "O", "WA", "WAE", "OE", "YO", "U", "WEO", "WE",
    "WI", "YU", "EU", "YI", "I"]

def lastNames : List String :=
  ["", "G", "GG", "GS", "N", "NJ", "NH", "D", "L", "LG", "LM", "LB", "LS", "LT", "LP", "LH", "M",
    "B", "BS", "S", "SS", "NG", "J", "C", "K", "T", "P", "H"]

/-- The place of the longest of some names that a text begins with, and what is behind it. -/
def longest? (names : List String) (cs : List Char) : Option (Nat × List Char) :=
  (names.zipIdx.foldl
    (fun (found : Option (Nat × Nat)) (name, place) =>
      let better := found.all fun (_, length) => length < name.length
      if better && name.toList.isPrefixOf cs then some (place, name.length) else found)
    none).map fun (place, length) => (place, cs.drop length)

/-- The syllable whose letters a text names. -/
def syllable? (cs : List Char) : Option Nat :=
  match longest? firstNames cs with
  | none => none
  | some (first, cs) =>
    match longest? vowelNames cs with
    | none => none
    | some (vowel, cs) =>
      match longest? lastNames cs with
      | some (last, []) => some (0xAC00 + first * 588 + vowel * 28 + last)
      | _ => none

/-! ## All names -/

/-- The character of a name.  The names of syllables and ideographs are in capitals only. -/
def find? (name : List Char) : Option Char :=
  let upper := name.map Char.toUpper
  let found :=
    if syllable.isPrefixOf name then syllable? (name.drop syllable.length)
    else if ideograph.isPrefixOf name then behind? ideograph ideographs name
    else (numbered? upper).or (listed? upper)
  found.map Char.ofNat

/-- A row without names has no character. -/
theorem inRow?_empty (words : List (List Char)) (n : Nat) :
    inRow? words (n, "") = none := rfl

end CharName
end ScopeChain
