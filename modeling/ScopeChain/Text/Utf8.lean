/-
UTF-8: bytes to characters, or the first place where they are none.

The reader keeps what the last lead byte still owes.  A refusal covers the bytes taken
since that lead byte, so it names the longest start of a character that was met, and one
byte where no character starts.
-/
import ScopeChain.Text.Refused

namespace ScopeChain
namespace Utf8

/-- A character begun and not ended.  The range is that of the next byte. -/
structure Pending where
  taken : Nat
  bits : Nat
  owed : Nat
  low : Nat
  high : Nat

/-- What a lead byte above ASCII begins.  The ranges of the second byte keep out long
spellings, surrogates and numbers beyond U+10FFFF. -/
def begin? (b : Nat) : Option Pending :=
  if b < 0xC2 then none
  else if b < 0xE0 then some ⟨1, b - 0xC0, 1, 0x80, 0xBF⟩
  else if b = 0xE0 then some ⟨1, 0, 2, 0xA0, 0xBF⟩
  else if b = 0xED then some ⟨1, 0xD, 2, 0x80, 0x9F⟩
  else if b < 0xF0 then some ⟨1, b - 0xE0, 2, 0x80, 0xBF⟩
  else if b = 0xF0 then some ⟨1, 0, 3, 0x90, 0xBF⟩
  else if b < 0xF4 then some ⟨1, b - 0xF0, 3, 0x80, 0xBF⟩
  else if b = 0xF4 then some ⟨1, 4, 3, 0x80, 0x8F⟩
  else none

/-- The characters from offset `pos` on, after the reversed characters `done`. -/
def decodeFrom (pos : Nat) (pending : Option Pending) (done : List Char) :
    List UInt8 → Except Refused (List Char)
  | [] =>
    match pending with
    | none => .ok done.reverse
    | some p => .error ⟨pos - p.taken, p.taken, .unended⟩
  | byte :: rest =>
    let b := byte.toNat
    match pending with
    | none =>
      if b < 0x80 then decodeFrom (pos + 1) none (Char.ofNat b :: done) rest
      else
        match begin? b with
        | none => .error ⟨pos, 1, .start⟩
        | some p => decodeFrom (pos + 1) (some p) done rest
    | some p =>
      if p.low ≤ b ∧ b ≤ p.high then
        let bits := p.bits * 64 + (b - 0x80)
        if p.owed ≤ 1 then decodeFrom (pos + 1) none (Char.ofNat bits :: done) rest
        else decodeFrom (pos + 1) (some ⟨p.taken + 1, bits, p.owed - 1, 0x80, 0xBF⟩) done rest
      else .error ⟨pos - p.taken, p.taken, .continuation⟩

def decode (bytes : List UInt8) : Except Refused (List Char) := decodeFrom 0 none [] bytes

/-- The text that bytes spell, if they spell one. -/
def text? (bytes : List UInt8) : Option String :=
  match decode bytes with
  | .ok cs => some (String.ofList cs)
  | .error _ => none

def encode (s : String) : List UInt8 := s.toUTF8.toList

theorem decode_nil : decode [] = .ok [] := rfl

end Utf8
end ScopeChain
