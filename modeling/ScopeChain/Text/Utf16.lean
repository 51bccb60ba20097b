/-
UTF-16: units of two bytes to characters.

A unit below U+D800 or above U+DFFF is a character.  Of the units between, one of the first
half with one of the second half behind it makes a character beyond U+FFFF, and no other
arrangement spells anything.
-/
import ScopeChain.Text.ByteOrder
import ScopeChain.Text.Refused

namespace ScopeChain
namespace Utf16

/-- Whether a unit is of the first half of those that stand for parts of characters. -/
def isFirst (u : Nat) : Bool := 0xD800 ≤ u && u < 0xDC00

def isSecond (u : Nat) : Bool := 0xDC00 ≤ u && u < 0xE000

def pair (u v : Nat) : Char := Char.ofNat (0x10000 + (u - 0xD800) * 1024 + (v - 0xDC00))

/-- The characters from offset `pos` on, after the reversed characters `done`. -/
def decodeFrom (order : ByteOrder) (pos : Nat) (done : List Char) :
    List UInt8 → Except Refused (List Char)
  | [] => .ok done.reverse
  | [_] => .error ⟨pos, 1, .halfUnit⟩
  | a :: b :: rest =>
    let u := order.number [a, b]
    if isFirst u then
      match rest with
      | c :: d :: rest =>
        let v := order.number [c, d]
        if isSecond v then decodeFrom order (pos + 4) (pair u v :: done) rest
        else .error ⟨pos, 2, .unpaired⟩
      | rest => .error ⟨pos, 2 + rest.length, .unended⟩
    else if isSecond u then .error ⟨pos, 2, .stray⟩
    else decodeFrom order (pos + 2) (Char.ofNat u :: done) rest

/-- A unit that is no part of a pair is a character of its own. -/
theorem decodeFrom_unit {order : ByteOrder} {a b : UInt8} (pos : Nat) (done : List Char)
    (rest : List UInt8) (first : isFirst (order.number [a, b]) = false)
    (second : isSecond (order.number [a, b]) = false) :
    decodeFrom order pos done (a :: b :: rest) =
      decodeFrom order (pos + 2) (Char.ofNat (order.number [a, b]) :: done) rest := by
  rw [decodeFrom.eq_def]
  simp [first, second]

end Utf16
end ScopeChain
