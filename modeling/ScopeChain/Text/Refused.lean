/-
Bytes that an encoding refuses: where they are, and why they spell no character.
-/
import ScopeChain.Text.Digits

namespace ScopeChain

/-- Why bytes spell no character. -/
inductive Refused.Reason where
  /-- No character starts with the byte. -/
  | start
  /-- The next byte does not continue the character that was begun. -/
  | continuation
  /-- The bytes end inside a character. -/
  | unended
  /-- The bytes end inside a unit of several bytes. -/
  | halfUnit
  /-- A unit that opens a pair has no partner behind it. -/
  | unpaired
  /-- A unit that closes a pair has no partner in front of it. -/
  | stray
  /-- The number is one of those that only stand for parts of characters. -/
  | surrogate
  /-- The number is beyond the last character. -/
  | beyond
  /-- The byte is not ASCII. -/
  | notAscii
  /-- The byte has no character. -/
  | unassigned
  /-- The bytes of a character are none that belong together. -/
  | illegal
  /-- The bytes end inside a character of several bytes. -/
  | incomplete
  /-- The bytes are in a set from which no character can be taken. -/
  | unreadable
  /-- A shift ends inside a unit. -/
  | partialShift
  /-- A shift ends on bits that are not zero. -/
  | padding
  /-- A shift begins with no digit. -/
  | emptyShift
  /-- A shift does not end. -/
  | openShift
  /-- The byte stands for no character outside of shifts. -/
  | special
  /-- A backslash has nothing behind it. -/
  | bareEscape
  /-- An escape of two, four or eight digits has too few. -/
  | shortEscape (letter : Char) (digits : Nat)
  /-- An escape by digits names no character. -/
  | escapeBeyond
  /-- An escape by four or eight digits names no character. -/
  | rawEscapeBeyond
  /-- An escape by name is not closed, or has no name. -/
  | nameless
  /-- An escape has a name that no character has. -/
  | unknownName
  deriving DecidableEq, Repr

/-- Refused bytes: the offset of the first, their number, and the reason. -/
structure Refused where
  first : Nat
  width : Nat
  reason : Refused.Reason
  deriving DecidableEq, Repr

namespace Refused

/-- The wording of a reason. -/
def Reason.message : Reason → String
  | .start => "invalid start byte"
  | .continuation => "invalid continuation byte"
  | .unended => "unexpected end of data"
  | .halfUnit => "truncated data"
  | .unpaired => "illegal UTF-16 surrogate"
  | .stray => "illegal encoding"
  | .surrogate => "code point in surrogate code point range(0xd800, 0xe000)"
  | .beyond => "code point not in range(0x110000)"
  | .notAscii => "ordinal not in range(128)"
  | .unassigned => "character maps to <undefined>"
  | .illegal => "illegal multibyte sequence"
  | .incomplete => "incomplete multibyte sequence"
  | .unreadable => "internal codec error"
  | .partialShift => "partial character in shift sequence"
  | .padding => "non-zero padding bits in shift sequence"
  | .emptyShift => "ill-formed sequence"
  | .openShift => "unterminated shift sequence"
  | .special => "unexpected special character"
  | .bareEscape => "\\ at end of string"
  | .shortEscape letter digits =>
    "truncated \\" ++ String.ofList (letter :: List.replicate digits 'X') ++ " escape"
  | .escapeBeyond => "illegal Unicode character"
  | .rawEscapeBeyond => "\\Uxxxxxxxx out of range"
  | .nameless => "malformed \\N character escape"
  | .unknownName => "unknown Unicode character name"

/-- Names refused bytes by their encoding and place, and says why they are refused.  A single
byte is written out, more are given by their offsets. -/
def describe (r : Refused) (encoding : String) (bytes : List UInt8) (why : String) : String :=
  let place :=
    if r.width = 1 then
      "byte 0x" ++ String.ofList (Digits.hex 2 (bytes.getD r.first 0).toNat) ++ " in position " ++
        Digits.natText r.first
    else
      "bytes in position " ++ Digits.natText r.first ++ "-" ++
        Digits.natText (r.first + r.width - 1)
  "'" ++ encoding ++ "' codec can't decode " ++ place ++ ": " ++ why

end Refused
end ScopeChain
