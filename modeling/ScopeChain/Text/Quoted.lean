/-
Quoted text: one line of printable characters that determines the quoted text.

The quote is the apostrophe, and the double quote where the text has an apostrophe and no
double quote.  The quote in use and the backslash are escaped by a backslash, line feed,
carriage return and tab have letters, and every other unprintable character is written by
its code point in two, four or eight hexadecimal digits.
-/
import ScopeChain.Text.Digits
import ScopeChain.Text.Printable

namespace ScopeChain
namespace Quoted

/-- The quote that encloses a text or a run of bytes, told by what it holds. -/
def quoteFor (apostrophe double : Bool) : Char :=
  if apostrophe && !double then '\x22' else '\x27'

/-- The quote that encloses a text. -/
def quote (cs : List Char) : Char :=
  quoteFor (cs.contains '\x27') (cs.contains '\x22')

/-- The code point of an unprintable character, in the shortest of the three widths. -/
def escapePoint (n : Nat) : List Char :=
  if n < 0x100 then '\x5c' :: 'x' :: Digits.hex 2 n
  else if n < 0x10000 then '\x5c' :: 'u' :: Digits.hex 4 n
  else '\x5c' :: 'U' :: Digits.hex 8 n

/-- One character between quotes `q`. -/
def escape (q c : Char) : List Char :=
  if c = q ∨ c = '\x5c' then ['\x5c', c]
  else if c = '\n' then ['\x5c', 'n']
  else if c = '\r' then ['\x5c', 'r']
  else if c = '\t' then ['\x5c', 't']
  else if Printable.isPrintable c then [c]
  else escapePoint c.toNat

def encode (cs : List Char) : List Char :=
  let q := quote cs
  q :: cs.flatMap (escape q) ++ [q]

def text (s : String) : String := String.ofList (encode s.toList)

/-- One byte between quotes `q`.  All bytes above ASCII are unprintable. -/
def escapeByte (q : Char) (b : UInt8) : List Char :=
  let c := Char.ofNat b.toNat
  if b.toNat < 0x80 then escape q c else escapePoint b.toNat

def bytes (bs : List UInt8) : String :=
  let q := quoteFor (bs.contains 0x27) (bs.contains 0x22)
  String.ofList ('b' :: q :: bs.flatMap (escapeByte q) ++ [q])

/-- Texts in quotes, separated by commas, in brackets. -/
def list (names : List String) : String :=
  "[" ++ ", ".intercalate (names.map text) ++ "]"

end Quoted
end ScopeChain
