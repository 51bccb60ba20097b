/-
Character sets in which each byte is a character.

A set is given by its characters in the order of their bytes.  Most sets agree with ASCII on
the bytes below 128, and those are left out.  U+FFFD stands where a byte has no character.
-/
import ScopeChain.Text.Refused

namespace ScopeChain

structure Charset where
  name : String
  /-- Other names of the set. -/
  aliases : List String
  /-- The characters of all bytes, or of those from 128 on. -/
  chars : String
  deriving Repr

namespace Charset

def char? (table : Array Char) (byte : UInt8) : Option Char :=
  let b := byte.toNat
  let found := if table.size < 256 then
      if b < 128 then some (Char.ofNat b) else table[b - 128]?
    else table[b]?
  found.filter (· ≠ '\uFFFD')

/-- The characters of bytes that are one each, from offset `pos` on, after the reversed
characters `done`.  A byte that is none is refused for `reason`. -/
def decodeFrom (char? : UInt8 → Option Char) (reason : Refused.Reason) (pos : Nat)
    (done : List Char) : List UInt8 → Except Refused (List Char)
  | [] => .ok done.reverse
  | byte :: rest =>
    match char? byte with
    | some c => decodeFrom char? reason (pos + 1) (c :: done) rest
    | none => .error ⟨pos, 1, reason⟩

def decode (s : Charset) (bytes : List UInt8) : Except Refused (List Char) :=
  decodeFrom (char? s.chars.toList.toArray) .unassigned 0 [] bytes

end Charset
end ScopeChain
