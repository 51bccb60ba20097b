/-
Why the bytes of a file have no text.
-/
import ScopeChain.Text.Prepared.Basic
import ScopeChain.Text.Punycode
import ScopeChain.Text.Refused

namespace ScopeChain
namespace Encoding

inductive Refusal where
  /-- No encoding has the name. -/
  | unknown (name : String)
  /-- What has the name does not lead from bytes to text. -/
  | notText (name : String)
  /-- What should be a name is of a kind that is no text. -/
  | notName (kind : String)
  /-- A name holds a null character. -/
  | nullInName
  /-- Some of all bytes are refused by the encoding of a label. -/
  | bytes (label : String) (all : List UInt8) (r : Refused)
  /-- Bytes are in a set from which no character can be taken. -/
  | unreadable
  /-- No mark tells the order of bytes in units of so many bits. -/
  | unmarked (bits : Nat)
  /-- The encoding refuses all bytes. -/
  | void
  /-- Digits of a text in Punycode are wrong. -/
  | digits (f : Punycode.Fault)
  /-- Digits of a label in a domain name are wrong. -/
  | labelDigits (f : Punycode.Fault)
  /-- A label of a domain name is empty or has 64 characters. -/
  | labelSize
  /-- The text of a label cannot be prepared. -/
  | labelText (f : Prepared.Fault)
  /-- The text of a label begins as a label in Punycode does. -/
  | labelMark
  /-- The text of a label in Punycode has another label. -/
  | labelOther (label other : List Char)
  deriving Repr

/-- The bytes of ASCII characters. -/
def asciiBytes (cs : List Char) : List UInt8 := cs.map fun c => UInt8.ofNat c.toNat

def Refusal.message : Refusal → String
  | .unknown name => "unknown encoding: " ++ name
  | .notText name =>
    "'" ++ name ++
      "' is not a text encoding; use codecs.open() to handle arbitrary codecs"
  | .notName kind => "open() argument 'encoding' must be str or None, not " ++ kind
  | .nullInName => "embedded null character"
  | .bytes label all r => r.describe label all r.reason.message
  | .unreadable => Refused.Reason.unreadable.message
  | .unmarked bits => "UTF-" ++ Digits.natText bits ++ " stream does not start with BOM"
  | .void => "undefined encoding"
  | .digits f => f.message
  | .labelDigits f =>
    "decoding with 'punycode' codec failed (UnicodeError: " ++ f.message ++ ")"
  | .labelSize => "label empty or too long"
  | .labelText f => f.message
  | .labelMark => "Label starts with ACE prefix"
  | .labelOther label other =>
    "('IDNA does not round-trip', " ++ Quoted.bytes (asciiBytes label) ++ ", " ++
      Quoted.bytes (asciiBytes other) ++ ")"

end Encoding
end ScopeChain
