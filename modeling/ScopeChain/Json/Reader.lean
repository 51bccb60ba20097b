/-
Reading JSON text.

Beyond JSON, `NaN`, `Infinity` and `-Infinity` are read, and a name that comes again in an
object takes the new value at its old place.  A string is made of characters, so one with a
surrogate that has no partner is refused.  A fault says where it was met by the number
of characters that were left there, so a reader needs no position of its own.
-/
import ScopeChain.Json.Basic
import ScopeChain.Binary64.Reader

namespace ScopeChain
namespace Json

inductive Problem where
  | value
  | comma
  | colon
  | name
  | unterminated
  | escape
  | unicodeEscape
  | control
  | extra
  | byteOrderMark
  deriving DecidableEq, Repr

inductive Stop where
  /-- The text is no JSON, as is seen with `left` characters to go. -/
  | problem (p : Problem) (left : Nat)
  /-- An integer has more digits than are read. -/
  | longInteger (digits : Nat)
  /-- A container is nested too deep. -/
  | deep (object : Bool)
  /-- A string holds a surrogate without its partner. -/
  | surrogate
  deriving DecidableEq, Repr

/-- How many containers may be open at once. -/
def nestingLimit : Nat := 990

def isSpace (c : Char) : Bool := c = ' ' || c = '\t' || c = '\n' || c = '\r'

def skip (cs : List Char) : List Char := cs.dropWhile isSpace

def after? : List Char → List Char → Option (List Char)
  | [], cs => some cs
  | w :: ws, c :: cs => if w = c then after? ws cs else none
  | _ :: _, [] => none

/-- Where the reader of a string stands.  An escape remembers the text from its backslash
or its `u` on, where a fault in it is reported. -/
inductive Mode where
  | plain
  | backslash (start : List Char)
  | hex (start : List Char) (owed : Nat) (value : Nat)

def shortEscape? (c : Char) : Option Char :=
  if c = '\x22' ∨ c = '\x5c' ∨ c = '/' then some c
  else if c = 'b' then some '\x08'
  else if c = 'f' then some '\x0c'
  else if c = 'n' then some '\n'
  else if c = 'r' then some '\r'
  else if c = 't' then some '\t'
  else none

def isHigh (u : Nat) : Bool := 0xD800 ≤ u && u < 0xDC00

def isLow (u : Nat) : Bool := 0xDC00 ≤ u && u < 0xE000

/-- The characters of code units.  A high surrogate and a low one behind it make one
character, and a surrogate that stands alone makes none. -/
def assemble? : List Nat → Option (List Char)
  | [] => some []
  | [u] => if isHigh u || isLow u then none else some [Char.ofNat u]
  | u :: v :: rest =>
    if isHigh u && isLow v then
      (assemble? rest).map
        (Char.ofNat (0x10000 + (u - 0xD800) * 0x400 + (v - 0xDC00)) :: ·)
    else if isHigh u || isLow u then none
    else (assemble? (v :: rest)).map (Char.ofNat u :: ·)

/-- The rest of a string that began at `start`, behind the reversed code units `done`. -/
def readUnits (start : List Char) (mode : Mode) (done : List Nat) :
    List Char → Except Stop (List Nat × List Char)
  | [] =>
    match mode with
    | .hex u _ _ => .error (.problem .unicodeEscape u.length)
    | _ => .error (.problem .unterminated start.length)
  | c :: rest =>
    match mode with
    | .plain =>
      if c = '\x22' then .ok (done.reverse, rest)
      else if c = '\x5c' then readUnits start (.backslash (c :: rest)) done rest
      else if c.toNat < 0x20 then .error (.problem .control (rest.length + 1))
      else readUnits start .plain (c.toNat :: done) rest
    | .backslash b =>
      if c = 'u' then readUnits start (.hex (c :: rest) 4 0) done rest
      else
        match shortEscape? c with
        | some e => readUnits start .plain (e.toNat :: done) rest
        | none => .error (.problem .escape b.length)
    | .hex u owed value =>
      match Digits.hexValue? c with
      | none => .error (.problem .unicodeEscape u.length)
      | some d =>
        let value := value * 16 + d
        if owed ≤ 1 then
          -- The escape is refused if the text ends with it.
          if rest.isEmpty then .error (.problem .unicodeEscape u.length)
          else readUnits start .plain (value :: done) rest
        else readUnits start (.hex u (owed - 1) value) done rest

def readText (start rest : List Char) : Except Stop (String × List Char) :=
  match readUnits start .plain [] rest with
  | .ok (units, rest) =>
    match assemble? units with
    | some cs => .ok (String.ofList cs, rest)
    | none => .error .surrogate
  | .error e => .error e

def readNumber (cs : List Char) : Except Stop (Json × List Char) :=
  match Decimal.read? cs with
  | none => .error (.problem .value cs.length)
  | some (l, rest) =>
    if l.isInteger then
      if digitLimit < l.whole.length then .error (.longInteger l.whole.length)
      else .ok (.int l.toInt, rest)
    else .ok (.float l.toBinary64, rest)

/-- The words that stand for a value. -/
def words : List (List Char × Json) := [
  ("null".toList, .null), ("true".toList, .bool true), ("false".toList, .bool false),
  ("NaN".toList, .float .nan), ("Infinity".toList, .float (.infinite false)),
  ("-Infinity".toList, .float (.infinite true))]

def readScalar (cs : List Char) : Except Stop (Json × List Char) :=
  match cs with
  | '\x22' :: rest =>
    match readText cs rest with
    | .ok (s, rest) => .ok (.text s, rest)
    | .error e => .error e
  | _ =>
    match words.findSome? fun (word, j) => (after? word cs).map fun rest => (j, rest) with
    | some found => .ok found
    | none => readNumber cs

/-- The items from here to the closing bracket, behind the reversed items `done`.  There is
`room` for as many items as the text has characters. -/
def readItems (item : List Char → Except Stop (Json × List Char)) :
    (room : Nat) → (done : List Json) → List Char → Except Stop (Json × List Char)
  | 0, _, cs => .error (.problem .value cs.length)
  | room + 1, done, cs =>
    match item cs with
    | .error e => .error e
    | .ok (x, rest) =>
      match skip rest with
      | ']' :: rest => .ok (.array (x :: done).reverse, rest)
      | ',' :: rest => readItems item room (x :: done) (skip rest)
      | rest => .error (.problem .comma rest.length)

/-- The members from here to the closing brace, behind the members `done`. -/
def readMembers (item : List Char → Except Stop (Json × List Char)) :
    (room : Nat) → (done : List (String × Json)) → List Char →
      Except Stop (Json × List Char)
  | 0, _, cs => .error (.problem .name cs.length)
  | room + 1, done, cs =>
    match cs with
    | '\x22' :: rest =>
      match readText cs rest with
      | .error e => .error e
      | .ok (name, rest) =>
        match skip rest with
        | ':' :: rest =>
          match item (skip rest) with
          | .error e => .error e
          | .ok (x, rest) =>
            let done := putMember name x done
            match skip rest with
            | '\x7d' :: rest => .ok (.object done, rest)
            | ',' :: rest => readMembers item room done (skip rest)
            | rest => .error (.problem .comma rest.length)
        | rest => .error (.problem .colon rest.length)
    | cs => .error (.problem .name cs.length)

/-- The value at the front of a text, with `depth` containers left to open. -/
def readValue (room : Nat) (depth : Nat) (cs : List Char) : Except Stop (Json × List Char) :=
  match cs with
  | '[' :: rest =>
    match depth with
    | 0 => .error (.deep false)
    | depth + 1 =>
      match skip rest with
      | ']' :: rest => .ok (.array [], rest)
      | rest => readItems (readValue room depth) room [] rest
  | '\x7b' :: rest =>
    match depth with
    | 0 => .error (.deep true)
    | depth + 1 =>
      match skip rest with
      | '\x7d' :: rest => .ok (.object [], rest)
      | rest => readMembers (readValue room depth) room [] rest
  | cs => readScalar cs

def read (cs : List Char) : Except Stop Json :=
  if cs.head? = some '\uFEFF' then .error (.problem .byteOrderMark cs.length)
  else
    match readValue cs.length nestingLimit (skip cs) with
    | .error e => .error e
    | .ok (j, rest) =>
      match skip rest with
      | [] => .ok j
      | rest => .error (.problem .extra rest.length)

/-- Line and column of the character in front of the last `left`, both from one.  Only a
line feed begins a line. -/
def position (cs : List Char) (left : Nat) : Nat × Nat :=
  let before := cs.take (cs.length - left)
  (before.count '\n' + 1, (before.reverse.takeWhile (· ≠ '\n')).length + 1)

def Problem.message : Problem → String
  | .value => "Expecting value"
  | .comma => "Expecting ',' delimiter"
  | .colon => "Expecting ':' delimiter"
  | .name => "Expecting property name enclosed in double quotes"
  | .unterminated => "Unterminated string starting at"
  | .escape => "Invalid \\escape"
  | .unicodeEscape => "Invalid \\uXXXX escape"
  | .control => "Invalid control character at"
  | .extra => "Extra data"
  | .byteOrderMark => "Unexpected UTF-8 BOM (decode using utf-8-sig)"

end Json
end ScopeChain
