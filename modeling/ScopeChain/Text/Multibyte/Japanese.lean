/-
Japanese sets of characters of several bytes: Shift JIS and EUC-JP over JIS X 0208, with
their code page and with JIS X 0212 and JIS X 0213.

Shift JIS folds two rows into each first byte and leaves room for kana of one byte.  EUC-JP
has the row and the column as bytes, behind a byte of its own for kana and for a second
plane.
-/
import ScopeChain.Text.Multibyte.Cp932
import ScopeChain.Text.Multibyte.Jis0208
import ScopeChain.Text.Multibyte.Jis0212
import ScopeChain.Text.Multibyte.Jis0213
import ScopeChain.Text.Multibyte.Step

namespace ScopeChain
namespace Multibyte

/-- The kana of one byte. -/
def kana? (a : Nat) : Option Char :=
  if 0xA1 ≤ a ∧ a ≤ 0xDF then some (Char.ofNat (0xFF61 + (a - 0xA1))) else none

/-! ## JIS X 0213 -/

/-- The editions of JIS X 0213. -/
inductive Edition where
  | first
  | second
  deriving DecidableEq, Repr

/-- The characters of JIS X 0213 that are written as two: the row, the first column, and the
pairs from there on. -/
def jisPairs : List (Nat × Nat × List (List Char)) := [
  (3, 86, [['か', '\u309A'], ['き', '\u309A'], ['く', '\u309A'], ['け', '\u309A'], ['こ', '\u309A']]),
  (4, 86, [['カ', '\u309A'], ['キ', '\u309A'], ['ク', '\u309A'], ['ケ', '\u309A'], ['コ', '\u309A'],
    ['セ', '\u309A'], ['ツ', '\u309A'], ['ト', '\u309A']]),
  (5, 87, [['ㇷ', '\u309A']]),
  (10, 35, [['æ', '\u0300']]),
  (10, 39, [['ɔ', '\u0300'], ['ɔ', '\u0301'], ['ʌ', '\u0300'], ['ʌ', '\u0301'], ['ə', '\u0300'],
    ['ə', '\u0301'], ['ɚ', '\u0300'], ['ɚ', '\u0301']]),
  (10, 68, [['˩', '˥'], ['˥', '˩']])]

/-- The two characters of a cell of the first plane. -/
def jisPair? (row column : Nat) : Option (List Char) :=
  jisPairs.findSome? fun (r, first, pairs) =>
    if r = row ∧ first ≤ column then pairs[column - first]? else none

/-- The characters of the first plane that the second edition added. -/
def addedKanji : String := "俱剝𠮟吞噓姸屛幷瘦繫"

def firstPlane : Unit → Grid := fun _ => .ofStretches 94 94 (jis0208 ++ jis0213First)

def secondPlane : Unit → Grid := fun _ => .ofStretches 94 94 jis0213Second

/-- What a cell of the first plane has, or how many bytes are refused if it has nothing. -/
def firstCell (edition : Edition) (g : Grid) (row column : Nat) : Except Nat (List Char) :=
  match jisPair? row column with
  | some cs => .ok cs
  | none =>
    match g.get? row column with
    | none => .error 1
    | some c =>
      if edition = .first && addedKanji.toList.contains c then .error 2 else .ok [c]

/-- The character of a cell of the second plane.  The second edition changed one. -/
def secondCell? (edition : Edition) (g : Grid) (row column : Nat) : Option Char :=
  if edition = .first ∧ row = 92 ∧ column = 26 then some '鬝' else g.get? row column

/-- The step that takes what was found for two bytes, or refuses as many as it says. -/
def Step.ofCell : Except Nat (List Char) → Step Unit
  | .ok cs => .take cs 2 ()
  | .error width => .refuse width

/-! ## Shift JIS -/

/-- The row and the column of two bytes. -/
def shiftCell? (a b : Nat) : Option (Nat × Nat) :=
  if b < 0x40 ∨ b = 0x7F ∨ 0xFC < b then none
  else
    let row := (if a < 0xA0 then a - 0x81 else a - 0xC1) * 2
    let column := if b < 0x7F then b - 0x40 else b - 0x41
    some (row + column / 94, column % 94)

/-- A step in Shift JIS, where bytes up to `last` begin pairs. -/
def shiftStep (single : Nat → Option Char) (last : Nat)
    (cell : Nat → Nat → Except Nat (List Char)) (bytes : List UInt8) : Step Unit :=
  match bytes with
  | [] => .more
  | a :: _ =>
    if (single a.toNat).isNone &&
        !((0x81 ≤ a.toNat && a.toNat < 0xA0) || (0xE0 ≤ a.toNat && a.toNat ≤ last)) then
      .refuse 1
    else
      pairStep single
        (fun a b =>
          match shiftCell? a b with
          | some (row, column) => .ofCell (cell row column)
          | none => .refuse 1)
        bytes

/-- The characters of a cell that has one at most. -/
def ofChar? : Option Char → Except Nat (List Char)
  | some c => .ok [c]
  | none => .error 1

def decodeShiftJis (bytes : List UInt8) : Except Refused (List Char) :=
  let g := Grid.ofStretches 94 94 jis0208
  decodeBy
    (shiftStep (fun a => (ascii a).or (kana? a)) 0xEA fun row column => ofChar? (g.get? row column))
    bytes

/-- The single bytes of code page 932.  Those between pairs and kana are private. -/
def cp932Single? (a : Nat) : Option Char :=
  if a ≤ 0x80 then some (Char.ofNat a)
  else if a = 0xA0 then some '\uF8F0'
  else if 0xFD ≤ a then some (Char.ofNat (0xF8F1 + (a - 0xFD)))
  else kana? a

/-- The private characters of code page 932, in rows of their own. -/
def cp932Private? (row column : Nat) : Option Char :=
  if 94 ≤ row ∧ row < 114 then some (Char.ofNat (0xE000 + (row - 94) * 94 + column)) else none

def decodeCp932 (bytes : List UInt8) : Except Refused (List Char) :=
  let g := Grid.ofStretches 120 94 (jis0208 ++ cp932Own)
  decodeBy
    (shiftStep cp932Single? 0xFC fun row column =>
      ofChar? ((cp932Private? row column).or (g.get? row column)))
    bytes

/-- The row of the second plane that a row beyond the first stands for. -/
def secondRow (row : Nat) : Nat :=
  if row < 103 then [0, 7, 2, 3, 4, 11, 12, 13, 14].getD (row - 94) 0 else row - 26

/-- The single bytes of Shift JIS with JIS X 0213.  Two signs of ASCII are others. -/
def jisSingle? (a : Nat) : Option Char :=
  if a = 0x5C then some '¥' else if a = 0x7E then some '‾' else (ascii a).or (kana? a)

def decodeShiftJis0213 (edition : Edition) (bytes : List UInt8) : Except Refused (List Char) :=
  let plane := firstPlane ()
  let other := secondPlane ()
  let cell (row column : Nat) : Except Nat (List Char) :=
    if 94 ≤ row then ofChar? (secondCell? edition other (secondRow row) column)
    else
      match firstCell edition plane row column with
      | .ok ['＼'] => .ok ['\x5c']
      | .ok ['～'] => .ok ['~']
      | found => found
  decodeBy (shiftStep jisSingle? 0xFC cell) bytes

/-! ## EUC-JP -/

/-- A step in EUC-JP with the cells of its two planes. -/
def eucStep (cell : Nat → Nat → Except Nat (List Char)) (other : Nat → Nat → Option Char)
    (bytes : List UInt8) : Step Unit :=
  match bytes.map (·.toNat) with
  | 0x8F :: b :: c :: _ =>
    .ofFound 3 (if 0xA1 ≤ b ∧ 0xA1 ≤ c then (other (b - 0xA1) (c - 0xA1)).map ([·]) else none)
  | 0x8F :: _ => .more
  | 0x8E :: b :: _ => .ofFound 2 ((kana? b).map ([·]))
  | _ =>
    pairStep ascii
      (fun a b => if 0xA1 ≤ a ∧ 0xA1 ≤ b then .ofCell (cell (a - 0xA1) (b - 0xA1)) else .refuse 1)
      bytes

def decodeEucJp (bytes : List UInt8) : Except Refused (List Char) :=
  let g := Grid.ofStretches 94 94 jis0208
  let other := Grid.ofStretches 94 94 jis0212
  decodeBy
    (fun bytes => eucStep (fun row column => ofChar? (g.get? row column)) other.get? (bytes.take 3))
    bytes

/-- EUC-JP with JIS X 0213, where the second plane has the cells of JIS X 0212 too. -/
def decodeEucJis0213 (edition : Edition) (bytes : List UInt8) : Except Refused (List Char) :=
  let plane := firstPlane ()
  let other := Grid.ofStretches 94 94 (jis0212 ++ jis0213Second)
  decodeBy
    (fun bytes => eucStep (firstCell edition plane) (secondCell? edition other) (bytes.take 3))
    bytes

end Multibyte
end ScopeChain
