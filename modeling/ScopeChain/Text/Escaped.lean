/-
Texts with escapes in bytes.

A byte without a backslash in front is the character of its number.  A backslash begins an
escape of one letter, of octal digits, of two, four or eight hexadecimal digits, or of the
name of a character; in the raw form only those of four and eight digits are escapes.  A
backslash that begins none stands for itself.
-/
import ScopeChain.Text.CharName.Basic
import ScopeChain.Text.Refused

namespace ScopeChain
namespace Escaped

/-- The value of a run of hexadecimal digits in front, and how many bytes were read: all
that were asked for, or those in front of the first that is no digit. -/
def readHex : (owed taken value : Nat) → List UInt8 → Nat × Nat × Bool
  | 0, taken, value, _ => (value, taken, true)
  | _ + 1, taken, value, [] => (value, taken, false)
  | owed + 1, taken, value, byte :: rest =>
    match Digits.hexValue? (Char.ofNat byte.toNat) with
    | some d => readHex owed (taken + 1) (value * 16 + d) rest
    | none => (value, taken, false)

/-- The octal digits in front, three at most with the `value` read so far. -/
def readOctal : (owed taken value : Nat) → List UInt8 → Nat × Nat
  | 0, taken, value, _ => (value, taken)
  | _ + 1, taken, value, [] => (value, taken)
  | owed + 1, taken, value, byte :: rest =>
    if 0x30 ≤ byte.toNat ∧ byte.toNat ≤ 0x37 then
      readOctal owed (taken + 1) (value * 8 + (byte.toNat - 0x30)) rest
    else (value, taken)

/-- The character of an escape by a letter or sign. -/
def simple? (letter : Char) : Option Char :=
  if letter = '\x5c' ∨ letter = '\x27' ∨ letter = '\x22' then some letter
  else if letter = 'a' then some '\x07'
  else if letter = 'b' then some '\x08'
  else if letter = 't' then some '\t'
  else if letter = 'n' then some '\n'
  else if letter = 'v' then some '\x0b'
  else if letter = 'f' then some '\x0c'
  else if letter = 'r' then some '\r'
  else none

/-- How many hexadecimal digits an escape has. -/
def digitsOf? (raw : Bool) (letter : Char) : Option Nat :=
  if letter = 'x' ∧ !raw then some 2
  else if letter = 'u' then some 4
  else if letter = 'U' then some 8
  else none

/-- The character of a number, or what stands for a number that only parts of characters
have. -/
def character (n : Nat) : Char := if n.isValidChar then Char.ofNat n else '\uFFFD'

/-- The escape behind a backslash at offset `pos`: its characters, of which there is none
where it joins two lines, and how many of the bytes belong to it. -/
def readEscape (raw : Bool) (pos : Nat) (letter : Char) (rest : List UInt8) :
    Except Refused (List Char × Nat) :=
  match digitsOf? raw letter with
  | some digits =>
    match readHex digits 0 0 rest with
    | (_, taken, false) => .error ⟨pos, 2 + taken, .shortEscape letter digits⟩
    | (value, taken, true) =>
      if value < 0x110000 then .ok ([character value], taken)
      else .error ⟨pos, 2 + taken, if raw then .rawEscapeBeyond else .escapeBeyond⟩
  | none =>
    if raw then .ok (['\x5c', letter], 0)
    else if letter = '\n' then .ok ([], 0)
    else if '0' ≤ letter ∧ letter ≤ '7' then
      let (value, taken) := readOctal 2 0 (letter.toNat - 0x30) rest
      .ok ([Char.ofNat value], taken)
    else if letter = 'N' then
      match rest with
      | [] => .error ⟨pos, 2, .nameless⟩
      | open' :: name =>
        if open'.toNat ≠ 0x7B then .error ⟨pos, 2, .nameless⟩
        else
          let length := (name.takeWhile (·.toNat ≠ 0x7D)).length
          if length = name.length then .error ⟨pos, 3 + length, .nameless⟩
          else if length = 0 then .error ⟨pos, 3, .nameless⟩
          else
            match CharName.find? ((name.take length).map fun byte => Char.ofNat byte.toNat) with
            | some c => .ok ([c], length + 2)
            | none => .error ⟨pos, 4 + length, .unknownName⟩
    else
      match simple? letter with
      | some c => .ok ([c], 0)
      | none => .ok (['\x5c', letter], 0)

/-- The characters from offset `pos` on, after the reversed characters `done`.  Each step
takes a byte, so `room` for as many steps as there are bytes is enough. -/
def decodeFrom (raw : Bool) : (room : Nat) → (pos : Nat) → (done : List Char) → List UInt8 →
    Except Refused (List Char)
  | 0, _, done, _ => .ok done.reverse
  | _ + 1, _, done, [] => .ok done.reverse
  | room + 1, pos, done, byte :: rest =>
    if byte.toNat ≠ 0x5C then
      decodeFrom raw room (pos + 1) (Char.ofNat byte.toNat :: done) rest
    else
      match rest with
      | [] => if raw then .ok ('\x5c' :: done).reverse else .error ⟨pos, 1, .bareEscape⟩
      | letter :: rest =>
        match readEscape raw pos (Char.ofNat letter.toNat) rest with
        | .ok (cs, taken) =>
          decodeFrom raw room (pos + 2 + taken) (cs.reverse ++ done) (rest.drop taken)
        | .error r => .error r

def decode (raw : Bool) (bytes : List UInt8) : Except Refused (List Char) :=
  decodeFrom raw bytes.length 0 [] bytes

end Escaped
end ScopeChain
