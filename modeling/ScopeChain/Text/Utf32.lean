/-
UTF-32: four bytes are the number of a character.
-/
import ScopeChain.Text.ByteOrder
import ScopeChain.Text.Refused

namespace ScopeChain
namespace Utf32

/-- The characters from offset `pos` on, after the reversed characters `done`. -/
def decodeFrom (order : ByteOrder) (pos : Nat) (done : List Char) :
    List UInt8 → Except Refused (List Char)
  | [] => .ok done.reverse
  | a :: b :: c :: d :: rest =>
    let n := order.number [a, b, c, d]
    if 0xD800 ≤ n ∧ n < 0xE000 then .error ⟨pos, 4, .surrogate⟩
    else if 0x110000 ≤ n then .error ⟨pos, 4, .beyond⟩
    else decodeFrom order (pos + 4) (Char.ofNat n :: done) rest
  | rest => .error ⟨pos, rest.length, .halfUnit⟩

end Utf32
end ScopeChain
