/-
Encodings: how the bytes of a file spell its text.

The three Unicode forms of one, two and four bytes are read with or without a mark in front.
ASCII has the bytes below 128, Latin-1 has all bytes as the characters of their numbers, and
other character sets have tables, of single bytes or of several.  The forms that remain spell
all text in ASCII.
-/
import ScopeChain.Text.Charset.Basic
import ScopeChain.Text.Encoding.Domain
import ScopeChain.Text.Escaped
import ScopeChain.Text.Multibyte.Basic
import ScopeChain.Text.Utf7
import ScopeChain.Text.Utf8
import ScopeChain.Text.Utf32

namespace ScopeChain

inductive Encoding where
  | utf8
  /-- UTF-8 behind a mark, which may be missing. -/
  | markedUtf8
  | utf16 (order : ByteOrder)
  /-- UTF-16 behind a mark, which tells the order of bytes. -/
  | markedUtf16
  | utf32 (order : ByteOrder)
  /-- UTF-32 behind a mark, which tells the order of bytes. -/
  | markedUtf32
  | utf7
  | ascii
  | latin1
  | charset (s : Charset)
  | multibyte (s : Multibyte)
  /-- Bytes with escapes. -/
  | escaped (raw : Bool)
  | punycode
  /-- Labels of domain names, which points separate. -/
  | domain
  /-- The encoding of no text. -/
  | void

namespace Encoding

/-- What an encoding of a label makes of bytes. -/
def labelled (label : String) (bytes : List UInt8) :
    Except Refused (List Char) → Except Refusal (List Char)
  | .ok cs => .ok cs
  | .error r => .error (if r.reason = .unreadable then .unreadable else .bytes label bytes r)

/-! ## Unicode -/

def decodeUtf8 (bytes : List UInt8) : Except Refusal (List Char) :=
  labelled "utf-8" bytes (Utf8.decode bytes)

/-- What stands behind the mark of UTF-8.  Bytes that end inside one are nothing but a
mark. -/
def behindMark (bytes : List UInt8) : List UInt8 :=
  let mark := [0xEF, 0xBB, 0xBF]
  if mark.isPrefixOf bytes then bytes.drop mark.length
  else if bytes.isPrefixOf mark then []
  else bytes

/-- UTF-16 with `skipped` bytes in front that are no part of the text. -/
def decodeUtf16 (order : ByteOrder) (skipped : Nat) (bytes : List UInt8) :
    Except Refusal (List Char) :=
  let label := match order with
    | .little => "utf-16-le"
    | .big => "utf-16-be"
  labelled label bytes (Utf16.decodeFrom order skipped [] (bytes.drop skipped))

/-- UTF-32 with `skipped` bytes in front that are no part of the text. -/
def decodeUtf32 (order : ByteOrder) (skipped : Nat) (bytes : List UInt8) :
    Except Refusal (List Char) :=
  let label := match order with
    | .little => "utf-32-le"
    | .big => "utf-32-be"
  labelled label bytes (Utf32.decodeFrom order skipped [] (bytes.drop skipped))

/-- Decodes by the order that a mark in front tells.  Bytes without a mark are refused by
their first fault in little order, and else for the missing mark; no bytes need none. -/
def decodeMarked (bits : Nat) (mark : List UInt8)
    (decode : ByteOrder → Nat → List UInt8 → Except Refusal (List Char)) (bytes : List UInt8) :
    Except Refusal (List Char) :=
  if mark.isPrefixOf bytes then decode .little mark.length bytes
  else if mark.reverse.isPrefixOf bytes then decode .big mark.length bytes
  else
    match decode .little 0 bytes with
    | .error r => .error r
    | .ok [] => .ok []
    | .ok _ => .error (.unmarked bits)

/-! ## ASCII and what is spelled in it -/

def latinChar (byte : UInt8) : Char := Char.ofNat byte.toNat

def asciiChar? (byte : UInt8) : Option Char :=
  if byte.toNat < 0x80 then some (latinChar byte) else none

def decodeAscii (bytes : List UInt8) : Except Refusal (List Char) :=
  labelled "ascii" bytes (Charset.decodeFrom asciiChar? .notAscii 0 [] bytes)

/-- Punycode.  The parts on both sides of the last hyphen are ASCII each. -/
def decodePunycode (bytes : List UInt8) : Except Refusal (List Char) :=
  let digits := (bytes.reverse.takeWhile (·.toNat ≠ 0x2D)).reverse
  match decodeAscii (bytes.take (bytes.length - digits.length - 1)) with
  | .error r => .error r
  | .ok _ =>
    match decodeAscii digits with
    | .error r => .error r
    | .ok _ =>
      match Punycode.decode (bytes.map latinChar) with
      | .ok cs => .ok cs
      | .error f => .error (.digits f)

/-! ## All encodings -/

def decode (encoding : Encoding) (bytes : List UInt8) : Except Refusal (List Char) :=
  match encoding with
  | .utf8 => decodeUtf8 bytes
  | .markedUtf8 => decodeUtf8 (behindMark bytes)
  | .utf16 order => decodeUtf16 order 0 bytes
  | .markedUtf16 => decodeMarked 16 [0xFF, 0xFE] decodeUtf16 bytes
  | .utf32 order => decodeUtf32 order 0 bytes
  | .markedUtf32 => decodeMarked 32 [0xFF, 0xFE, 0, 0] decodeUtf32 bytes
  | .utf7 => labelled "utf7" bytes (Utf7.decode bytes)
  | .ascii => decodeAscii bytes
  | .latin1 => .ok (bytes.map latinChar)
  | .charset s => labelled "charmap" bytes (s.decode bytes)
  | .multibyte s => labelled s.name bytes (s.decode bytes)
  | .escaped raw =>
    labelled (if raw then "rawunicodeescape" else "unicodeescape") bytes (Escaped.decode raw bytes)
  | .punycode => decodePunycode bytes
  | .domain =>
    match decodeAscii bytes with
    | .ok cs => Domain.decodeLabels [] cs
    | .error r => .error r
  | .void => .error .void

end Encoding
end ScopeChain
