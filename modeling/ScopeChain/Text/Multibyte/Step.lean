/-
Reading characters of several bytes, one step for each.

A step looks at the bytes that are left and takes those of a character, or refuses the first
of them, or asks for more bytes than there are, or cannot go on at all.
-/
import ScopeChain.Text.Refused

namespace ScopeChain
namespace Multibyte

/-- What a step answers, with a state for the next. -/
inductive Step (σ : Type) where
  | take (cs : List Char) (width : Nat) (next : σ)
  | refuse (width : Nat)
  | more
  | stop

/-- The characters from offset `pos` on, after the reversed characters `done`.  Each step
takes a byte, so `room` for as many steps as there are bytes is enough. -/
def decodeFrom {σ : Type} (step : σ → List UInt8 → Step σ) :
    (room : Nat) → (state : σ) → (pos : Nat) → (done : List Char) → List UInt8 →
    Except Refused (List Char)
  | 0, _, _, done, _ => .ok done.reverse
  | _ + 1, _, _, done, [] => .ok done.reverse
  | room + 1, state, pos, done, byte :: rest =>
    match step state (byte :: rest) with
    | .take cs width next =>
      decodeFrom step room next (pos + width) (cs.reverse ++ done) ((byte :: rest).drop width)
    | .refuse width => .error ⟨pos, width, .illegal⟩
    | .more => .error ⟨pos, rest.length + 1, .incomplete⟩
    | .stop => .error ⟨pos, rest.length + 1, .unreadable⟩

/-- The characters of bytes that need no state between them. -/
def decodeBy (step : List UInt8 → Step Unit) (bytes : List UInt8) : Except Refused (List Char) :=
  decodeFrom (fun _ => step) bytes.length () 0 [] bytes

/-- The step that takes the characters that were found for the first bytes. -/
def Step.ofFound (width : Nat) : Option (List Char) → Step Unit
  | some cs => .take cs width ()
  | none => .refuse 1

/-- A step in a set whose characters are one byte or two. -/
def pairStep (single : Nat → Option Char) (pair : Nat → Nat → Step Unit) :
    List UInt8 → Step Unit
  | [] => .more
  | [a] =>
    match single a.toNat with
    | some c => .take [c] 1 ()
    | none => .more
  | a :: b :: _ =>
    match single a.toNat with
    | some c => .take [c] 1 ()
    | none => pair a.toNat b.toNat

/-- ASCII among the single bytes. -/
def ascii (a : Nat) : Option Char := if a < 0x80 then some (Char.ofNat a) else none

/-- Bytes that are ASCII are so in all sets of this kind. -/
theorem pairStep_ascii {pair : Nat → Nat → Step Unit} {a : UInt8} (h : a.toNat < 0x80)
    (rest : List UInt8) :
    pairStep ascii pair (a :: rest) = .take [Char.ofNat a.toNat] 1 () := by
  cases rest <;> simp [pairStep, ascii, h]

end Multibyte
end ScopeChain
