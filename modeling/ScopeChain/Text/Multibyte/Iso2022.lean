/-
ISO 2022: sets of characters that escapes call.

A text has a first and a second set in use, and shifts between them where a variant has
shifts.  An escape calls a set into one of these places, or into a third, from which it is
taken for one character at a time.  Other escapes are part of the text.
-/
import ScopeChain.Text.Multibyte.Chinese
import ScopeChain.Text.Multibyte.Japanese
import ScopeChain.Text.Multibyte.Korean

namespace ScopeChain
namespace Multibyte

/-- What names a set in an escape: its last byte, and whether the characters of the set are
two bytes each. -/
structure Mark where
  byte : Nat
  paired : Bool
  deriving DecidableEq, Repr

/-- ASCII can always be called. -/
def Mark.ascii : Mark := ⟨0x42, false⟩

/-- A set that escapes can call, with the characters of its bytes. -/
structure Callable where
  mark : Mark
  find : List Nat → Option (List Char)

/-- A variant of ISO 2022. -/
structure Variant where
  sets : List Callable
  /-- Whether bytes shift between two sets.  Variants without shifts know the escape that
  tells the revision of a set. -/
  shifts : Bool
  /-- Whether there is a third place for sets. -/
  third : Bool

/-- The sets in use. -/
structure Calls where
  first : Mark
  second : Mark
  third : Mark
  shifted : Bool
  /-- Whether the text is inside an escape that calls nothing. -/
  passing : Bool

def Calls.start : Calls := ⟨.ascii, .ascii, .ascii, false, false⟩

/-- The first, second or third set is another. -/
def Calls.call (s : Calls) (place : Nat) (mark : Mark) : Calls :=
  match place with
  | 0 => { s with first := mark }
  | 1 => { s with second := mark }
  | _ => { s with third := mark }

/-! ## Escapes -/

/-- The bytes that end an escape. -/
def endsEscape (b : Nat) : Bool := 0x40 ≤ b && b ≤ 0x5A

/-- The length of an escape by its bytes from offset `i` on: 0 if none of the first sixteen
ends it, and nothing if there are no more bytes.  The mark of a revision and the byte behind
it do not end an escape. -/
def escapeLength? (revised : Bool) (i : Nat) : List Nat → Option Nat
  | [] => if i < 16 then none else some 0
  | b :: rest =>
    if 16 ≤ i then some 0
    else if endsEscape b then some (i + 1)
    else if revised && (b :: rest).take 2 == [0x26, 0x40] then
      escapeLength? revised (i + 3) (rest.drop 2)
    else escapeLength? revised (i + 1) rest
termination_by bytes => bytes.length

/-- The place and the mark of the set that an escape calls. -/
def called? (v : Variant) : List Nat → Option (Nat × Mark)
  | [_, 0x24, b] => some (0, ⟨b, true⟩)
  | [_, 0x28, b] => some (0, ⟨b, false⟩)
  | [_, 0x29, b] => some (1, ⟨b, false⟩)
  | [_, 0x2E, b] => if v.third then some (2, ⟨b, false⟩) else none
  | [_, 0x24, 0x28, b] => some (0, ⟨b, true⟩)
  | [_, 0x24, 0x29, b] => some (1, ⟨b, true⟩)
  | [_, _, _, 0x1B, 0x24, 0x42] => if v.shifts then none else some (0, ⟨0x42, true⟩)
  | _ => none

/-- Whether a variant has a set. -/
def Variant.has (v : Variant) (mark : Mark) : Bool :=
  mark = .ascii || v.sets.any (·.mark = mark)

/-- The upper half of ISO 8859-7. -/
def greekUpper : String :=
  "\u00a0‘’£\uFFFD\uFFFD¦§¨©\uFFFD«¬\u00ad\uFFFD―°±²³΄΅Ά·ΈΉΊ»Ό½ΎΏΐΑΒΓΔΕΖΗΘΙΚΛΜΝΞΟΠΡ\uFFFDΣΤΥΦΧΨΩΪΫάέή" ++
  "ίΰαβγδεζηθικλμνξοπρςστυφχψωϊϋόύώ"

/-- The marks of the sets that have characters in the third place: the upper halves of ISO
8859-1 and ISO 8859-7. -/
def latin : Mark := ⟨0x41, false⟩

def greek : Mark := ⟨0x46, false⟩

/-- The character of a byte in the third set. -/
def thirdChar? (mark : Mark) (b : Nat) : Option Char :=
  if mark = latin then if b < 0x80 then some (Char.ofNat (b + 0x80)) else none
  else if mark = greek then
    if 0x20 ≤ b ∧ b < 0x80 then (greekUpper.toList[b - 0x20]?).filter (· ≠ '\uFFFD')
    else some (Char.ofNat ((b + 0x80) % 0x100))
  else ascii b

/-- What an escape does, by its bytes and what is behind it. -/
def escapeStep (v : Variant) (s : Calls) (bytes : List Nat) : Step Calls :=
  match bytes.drop 1 with
  | [] => .more
  | b :: rest =>
    if [0x24, 0x26, 0x28, 0x29, 0x2E].contains b then
      match escapeLength? (!v.shifts) 1 (b :: rest) with
      | none => .more
      | some 0 => .refuse 1
      | some width =>
        match called? v (bytes.take width) with
        | some (place, mark) =>
          if v.has mark then .take [] width (s.call place mark) else .refuse width
        | none => .refuse width
    else if v.third && b = 0x4E then
      match rest with
      | [] => .more
      | b :: _ =>
        if !([.ascii, latin, greek].contains s.third) then .stop
        else
          match thirdChar? s.third b with
          | some c => .take [c] 3 s
          | none => .refuse 3
    else .take ['\x1b'] 1 { s with passing := true }

/-! ## Texts -/

/-- The characters of a set for the first bytes. -/
def setStep (v : Variant) (s : Calls) (mark : Mark) (bytes : List Nat) : Step Calls :=
  let width := if mark.paired then 2 else 1
  if bytes.length < width then .more
  else
    match v.sets.find? (·.mark = mark) with
    | none => .refuse width
    | some set =>
      match set.find (bytes.take width) with
      | some cs => .take cs width s
      | none => .refuse width

def textStep (v : Variant) (s : Calls) : List Nat → Step Calls
  | [] => .more
  | b :: rest =>
    if s.passing then .take [Char.ofNat b] 1 { s with passing := !endsEscape b }
    else if b = 0x1B then escapeStep v s (b :: rest)
    else if v.shifts && b = 0x0E then .take [] 1 { s with shifted := true }
    else if v.shifts && b = 0x0F then .take [] 1 { s with shifted := false }
    else if b = 0x0A then .take ['\n'] 1 { s with shifted := false }
    else if b < 0x20 then .take [Char.ofNat b] 1 s
    else if 0x80 ≤ b then .refuse 1
    else
      let mark := if s.shifted then s.second else s.first
      if mark = .ascii then .take [Char.ofNat b] 1 s else setStep v s mark (b :: rest)

/-- The characters of a text.  No escape is longer than what a step is shown. -/
def Variant.decode (v : Variant) (bytes : List UInt8) : Except Refused (List Char) :=
  decodeFrom (fun s bytes => textStep v s ((bytes.take 24).map (·.toNat))) bytes.length .start 0 []
    bytes

/-! ## Sets -/

/-- A set of pairs by the cells of a grid. -/
def pairs (byte : Nat) (cell : Nat → Nat → Option (List Char)) : Callable :=
  { mark := ⟨byte, true⟩
    find := fun
      | [a, b] => if 0x21 ≤ a ∧ 0x21 ≤ b then cell (a - 0x21) (b - 0x21) else none
      | _ => none }

/-- A set of pairs by a grid of one character a cell. -/
def gridPairs (byte : Nat) (g : Grid) : Callable :=
  pairs byte fun row column => (g.get? row column).map ([·])

/-- A set of single bytes. -/
def singles (byte : Nat) (find : Nat → Option Char) : Callable :=
  { mark := ⟨byte, false⟩
    find := fun
      | [a] => (find a).map ([·])
      | _ => none }

/-- The sets of JIS X 0208 in its two revisions, and ASCII with two signs of its own. -/
def japaneseSets (g : Grid) : List Callable :=
  [gridPairs 0x42 g, gridPairs 0x40 g, singles 0x4A jisSingle?]

def jis0212Set : Unit → Callable := fun _ => gridPairs 0x44 (.ofStretches 94 94 jis0212)

/-- KS X 1001. -/
def ksSet : Unit → Callable := fun _ => gridPairs 0x43 (ksGrid ())

/-- Sets of other languages, and two that have characters in the third place only. -/
def foreignSets : Unit → List Callable := fun _ =>
  let g := gbkGrid ()
  [ksSet (), pairs 0x41 fun row column => (gb2312? g (row + 0xA1) (column + 0xA1)).map ([·]),
    singles latin.byte fun _ => none, singles greek.byte fun _ => none]

/-- The two planes of JIS X 0213, of which the first is that of an edition. -/
def planes (edition : Edition) : List Callable :=
  let plane := firstPlane ()
  let cell (row column : Nat) : Option (List Char) :=
    match firstCell edition plane row column with
    | .ok ['～'] => some ['~']
    | .ok cs => some cs
    | .error _ => none
  [pairs (if edition = .first then 0x4F else 0x51) cell, gridPairs 0x50 (secondPlane ())]

def jisGrid : Unit → Grid := fun _ => .ofStretches 94 94 jis0208

def decodeIso2022Kr (bytes : List UInt8) : Except Refused (List Char) :=
  Variant.decode ⟨[ksSet ()], true, false⟩ bytes

def decodeIso2022Jp (bytes : List UInt8) : Except Refused (List Char) :=
  Variant.decode ⟨japaneseSets (jisGrid ()), false, false⟩ bytes

def decodeIso2022Jp1 (bytes : List UInt8) : Except Refused (List Char) :=
  Variant.decode ⟨jis0212Set () :: japaneseSets (jisGrid ()), false, false⟩ bytes

def decodeIso2022Jp2 (bytes : List UInt8) : Except Refused (List Char) :=
  let sets := jis0212Set () :: japaneseSets (jisGrid ())
  Variant.decode ⟨sets ++ foreignSets (), false, true⟩ bytes

def decodeIso2022Jp0213 (edition : Edition) (bytes : List UInt8) : Except Refused (List Char) :=
  Variant.decode ⟨gridPairs 0x42 (jisGrid ()) :: planes edition, false, false⟩ bytes

def decodeIso2022JpExt (bytes : List UInt8) : Except Refused (List Char) :=
  let kana := singles 0x49 fun a => kana? (a + 0x80)
  Variant.decode ⟨kana :: jis0212Set () :: japaneseSets (jisGrid ()), false, false⟩ bytes

end Multibyte
end ScopeChain
