/-
Lenient readings of a value as a text, an integer or a boolean.

Bytes that are UTF-8 count as their text.  An integer is also read from a boolean, from a
double without a fraction, and from a text that spells one.
-/
import ScopeChain.Check.Issue
import ScopeChain.Text.Numeral
import ScopeChain.Text.Utf8

namespace ScopeChain
namespace Coerce

/-- Bytes as a text. -/
def bytesText (bs : List UInt8) : Except Issue String :=
  match Utf8.text? bs with
  | some s => .ok s
  | none => .error .undecodableText

def text : Value → Except Issue String
  | .text s => .ok s
  | .bytes bs => bytesText bs
  | _ => .error .notText

def keyText : Key → Except Issue String
  | .text s => .ok s
  | .bytes bs => bytesText bs
  | _ => .error .notText

def integerOfText (s : String) : Except Issue Int :=
  match Numeral.read s.toList with
  | .ok i => .ok i
  | .error .tooLong => .error .integerSize
  | .error .malformed => .error .integerText

/-- A double as an integer.  Its magnitude is below `2 ^ 63`. -/
def integerOfFloat (x : Binary64) : Except Issue Int :=
  if !x.isFinite then .error .notFinite
  else
    match x.toInt? with
    | none => .error .fractional
    | some i => if i.natAbs < Binary64.twoTo 63 then .ok i else .error .integerSize

def integer : Value → Except Issue Int
  | .int i => .ok i
  | .bool b => .ok (if b then 1 else 0)
  | .float x => integerOfFloat x
  | .text s => integerOfText s
  | .bytes bs =>
    match Utf8.text? bs with
    | some s => integerOfText s
    | none => .error .integerText
  | _ => .error .notInteger

def integerFrom (least : Int) (v : Value) : Except Issue Int :=
  match integer v with
  | .ok i => if i < least then .error (.below least) else .ok i
  | .error e => .error e

def integerBetween (least greatest : Int) (v : Value) : Except Issue Int :=
  match integerFrom least v with
  | .ok i => if greatest < i then .error (.above greatest) else .ok i
  | .error e => .error e

/-- The words for true and for false, in lower case. -/
def booleanOfText (s : String) : Except Issue Bool :=
  let word := String.ofList (s.toList.map Char.toLower)
  if ["1", "t", "true", "y", "yes", "on"].contains word then .ok true
  else if ["0", "f", "false", "n", "no", "off"].contains word then .ok false
  else .error .booleanText

/-- Whether an integer has 64 bits, one of them its sign. -/
def isWord (i : Int) : Bool :=
  -(Binary64.twoTo 63 : Int) ≤ i && i < (Binary64.twoTo 63 : Int)

/-- An integer as a boolean.  Only 0 and 1 are, and an integer of 64 bits is told apart from
a larger one. -/
def booleanOfInt (i : Int) : Except Issue Bool :=
  if i = 0 then .ok false
  else if i = 1 then .ok true
  else if isWord i then .error .booleanText
  else .error .notBoolean

/-- A value as a boolean.  Of the doubles only those that stand for an integer count as
numbers. -/
def boolean : Value → Except Issue Bool
  | .bool b => .ok b
  | .int i => booleanOfInt i
  | .float x =>
    match integerOfFloat x with
    | .ok i => booleanOfInt i
    | .error _ => .error .notBoolean
  | .text s => booleanOfText s
  | .bytes bs =>
    match Utf8.text? bs with
    | some s => booleanOfText s
    | none => .error .booleanText
  | _ => .error .notBoolean

def filledText (v : Value) : Except Issue String :=
  match text v with
  | .ok s => if s.isEmpty then .error .emptyText else .ok s
  | .error e => .error e

end Coerce

namespace Checked

/-- A reading of the checked value, as a check of it. -/
def ofCoercion {α : Type} : Except Issue α → Checked α
  | .ok a => .ok a
  | .error issue => fail issue

end Checked
end ScopeChain
