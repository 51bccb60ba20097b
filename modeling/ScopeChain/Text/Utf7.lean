/-
UTF-7: ASCII, with shifts to units of 16 bits.

A shift begins at a plus sign and spells its units by digits of six bits each.  It ends in
front of the first byte that is no digit, and a minus sign there belongs to it.  A plus sign
with a minus sign behind it stands for itself.
-/
import ScopeChain.Text.Utf16

namespace ScopeChain
namespace Utf7

/-- The value of a digit of six bits. -/
def digit? (byte : UInt8) : Option Nat :=
  let b := byte.toNat
  if 0x41 ≤ b ∧ b ≤ 0x5A then some (b - 0x41)
  else if 0x61 ≤ b ∧ b ≤ 0x7A then some (b - 0x61 + 26)
  else if 0x30 ≤ b ∧ b ≤ 0x39 then some (b - 0x30 + 52)
  else if b = 0x2B then some 62
  else if b = 0x2F then some 63
  else none

/-- A shift: where it began, whether it has no digit yet, the bits that make no unit yet,
and the first unit of a pair whose second is awaited. -/
structure Shift where
  begun : Nat
  fresh : Bool := true
  bits : Nat := 0
  value : Nat := 0
  opened : Option Nat := none

/-- What stands for a unit of a pair without the other, which is no character. -/
def lone : Char := '\uFFFD'

/-- The reversed characters after a unit, and the unit of a pair that it opens. -/
def addUnit (opened : Option Nat) (done : List Char) (u : Nat) : Option Nat × List Char :=
  match opened with
  | some first =>
    if Utf16.isSecond u then (none, Utf16.pair first u :: done)
    else if Utf16.isFirst u then (some u, lone :: done)
    else (none, Char.ofNat u :: lone :: done)
  | none =>
    if Utf16.isFirst u then (some u, done)
    else if Utf16.isSecond u then (none, lone :: done)
    else (none, Char.ofNat u :: done)

/-- A shift and the reversed characters after one more digit. -/
def Shift.add (s : Shift) (done : List Char) (d : Nat) : Shift × List Char :=
  let bits := s.bits + 6
  let value := s.value * 64 + d
  if 16 ≤ bits then
    let kept := Nat.pow 2 (bits - 16)
    let (opened, done) := addUnit s.opened done (value / kept)
    ({ s with fresh := false, bits := bits - 16, value := value % kept, opened }, done)
  else ({ s with fresh := false, bits, value }, done)

/-- The characters from offset `pos` on, after the reversed characters `done`. -/
def decodeFrom (pos : Nat) (shift : Option Shift) (done : List Char) :
    List UInt8 → Except Refused (List Char)
  | [] =>
    match shift with
    | none => .ok done.reverse
    | some s =>
      if s.opened.isSome || 6 ≤ s.bits || s.value ≠ 0 then
        .error ⟨s.begun, pos - s.begun, .openShift⟩
      else .ok done.reverse
  | byte :: rest =>
    match shift with
    | some s =>
      match digit? byte with
      | some d =>
        let (s, done) := s.add done d
        decodeFrom (pos + 1) (some s) done rest
      | none =>
        if s.fresh then
          if byte.toNat = 0x2D then decodeFrom (pos + 1) none ('+' :: done) rest
          else .error ⟨s.begun, 2, .emptyShift⟩
        else if 6 ≤ s.bits then .error ⟨s.begun, pos + 1 - s.begun, .partialShift⟩
        else if s.value ≠ 0 then .error ⟨s.begun, pos + 1 - s.begun, .padding⟩
        else
          let done := if s.opened.isSome && byte.toNat < 0x80 then lone :: done else done
          if byte.toNat = 0x2D then decodeFrom (pos + 1) none done rest
          else if byte.toNat < 0x80 then
            decodeFrom (pos + 1) none (Char.ofNat byte.toNat :: done) rest
          else .error ⟨pos, 1, .special⟩
    | none =>
      if byte.toNat = 0x2B then decodeFrom (pos + 1) (some { begun := pos }) done rest
      else if byte.toNat < 0x80 then
        decodeFrom (pos + 1) none (Char.ofNat byte.toNat :: done) rest
      else .error ⟨pos, 1, .special⟩

def decode (bytes : List UInt8) : Except Refused (List Char) := decodeFrom 0 none [] bytes

end Utf7
end ScopeChain
