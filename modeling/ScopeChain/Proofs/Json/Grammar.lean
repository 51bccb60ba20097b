/-
The grammar of JSON.

The productions of the standard, each as a relation between a text and what has to be known of it.
The names of an object have to differ, and what is compared is what they spell, in the code units
of UTF-16, since one name can be spelled in many ways.
-/
namespace ScopeChain
namespace Json
namespace Grammar

def Blank (cs : List Char) : Prop := ∀ c ∈ cs, c = ' ' ∨ c = '\t' ∨ c = '\n' ∨ c = '\r'

inductive Token (t : Char) : List Char → Prop where
  | mk {front back : List Char} (before : Blank front) (behind : Blank back) :
    Token t (front ++ t :: back)

/-! ## Numbers -/

def DigitRun (ds : List Char) : Prop := ds ≠ [] ∧ ∀ d ∈ ds, d.isDigit = true

inductive Whole : List Char → Prop where
  | zero : Whole ['0']
  | positive {d : Char} {ds : List Char} (run : DigitRun (d :: ds)) (lead : d ≠ '0') :
    Whole (d :: ds)

inductive Fraction : List Char → Prop where
  | none : Fraction []
  | digits {ds : List Char} (run : DigitRun ds) : Fraction ('.' :: ds)

inductive Power : List Char → Prop where
  | none : Power []
  | digits {e : Char} {sign ds : List Char} (letter : e = 'e' ∨ e = 'E')
    (signed : sign = [] ∨ sign = ['+'] ∨ sign = ['-']) (run : DigitRun ds) :
    Power (e :: (sign ++ ds))

inductive Number : List Char → Prop where
  | mk {sign ds fraction power : List Char} (signed : sign = [] ∨ sign = ['-'])
    (whole : Whole ds) (point : Fraction fraction) (scale : Power power) :
    Number (sign ++ (ds ++ (fraction ++ power)))

/-! ## Strings -/

/-- The code units of a character.  A character behind U+FFFF has two. -/
def units (c : Char) : List Nat :=
  if c.toNat < 0x10000 then [c.toNat]
  else [0xD800 + (c.toNat - 0x10000) / 0x400, 0xDC00 + (c.toNat - 0x10000) % 0x400]

def shortEscapes : List (Char × Nat) := [
  ('\x22', 0x22), ('\x5c', 0x5c), ('/', 0x2F), ('b', 0x08), ('f', 0x0C), ('n', 0x0A),
  ('r', 0x0D), ('t', 0x09)]

def HexDigit (c : Char) (v : Nat) : Prop :=
  v < 16 ∧ (c = Nat.digitChar v ∨ c = (Nat.digitChar v).toUpper)

/-- The characters between the quotes of a string, and the code units that they spell. -/
inductive Spells : List Char → List Nat → Prop where
  | nil : Spells [] []
  | plain {c : Char} {cs : List Char} {us : List Nat} (control : 0x20 ≤ c.toNat)
    (quote : c ≠ '\x22') (slash : c ≠ '\x5c') (rest : Spells cs us) :
    Spells (c :: cs) (units c ++ us)
  | short {c : Char} {u : Nat} {cs : List Char} {us : List Nat} (known : (c, u) ∈ shortEscapes)
    (rest : Spells cs us) : Spells ('\x5c' :: c :: cs) (u :: us)
  | hex {a b c d : Char} {i j k l : Nat} {cs : List Char} {us : List Nat} (first : HexDigit a i)
    (second : HexDigit b j) (third : HexDigit c k) (fourth : HexDigit d l)
    (rest : Spells cs us) :
    Spells ('\x5c' :: 'u' :: a :: b :: c :: d :: cs) ((((i * 16 + j) * 16 + k) * 16 + l) :: us)

inductive Text : List Char → List Nat → Prop where
  | mk {cs : List Char} {us : List Nat} (spells : Spells cs us) :
    Text ('\x22' :: (cs ++ ['\x22'])) us

/-! ## Values -/

mutual
inductive Value : List Char → Prop where
  | null : Value "null".toList
  | true : Value "true".toList
  | false : Value "false".toList
  | number {cs : List Char} (number : Number cs) : Value cs
  | text {cs : List Char} {us : List Nat} (text : Text cs us) : Value cs
  | emptyArray {opening closing : List Char} (opens : Token '[' opening)
    (closes : Token ']' closing) : Value (opening ++ closing)
  | array {opening x rest closing : List Char} (opens : Token '[' opening) (first : Value x)
    (more : Items rest) (closes : Token ']' closing) :
    Value (opening ++ (x ++ (rest ++ closing)))
  | emptyObject {opening closing : List Char} (opens : Token '\x7b' opening)
    (closes : Token '\x7d' closing) : Value (opening ++ closing)
  | object {opening x rest closing : List Char} {name : List Nat} {names : List (List Nat)}
    (opens : Token '\x7b' opening) (first : Member x name) (more : Members rest names)
    (distinct : (name :: names).Nodup) (closes : Token '\x7d' closing) :
    Value (opening ++ (x ++ (rest ++ closing)))

inductive Items : List Char → Prop where
  | nil : Items []
  | cons {comma x rest : List Char} (separates : Token ',' comma) (item : Value x)
    (more : Items rest) : Items (comma ++ (x ++ rest))

inductive Member : List Char → List Nat → Prop where
  | mk {text colon x : List Char} {name : List Nat} (named : Text text name)
    (separates : Token ':' colon) (value : Value x) : Member (text ++ (colon ++ x)) name

/-- The members behind the first, each behind a comma, and what their names spell. -/
inductive Members : List Char → List (List Nat) → Prop where
  | nil : Members [] []
  | cons {comma x rest : List Char} {name : List Nat} {names : List (List Nat)}
    (separates : Token ',' comma) (member : Member x name) (more : Members rest names) :
    Members (comma ++ (x ++ rest)) (name :: names)
end

/-- A text that the grammar derives: a value with white space on both sides. -/
inductive Derives : List Char → Prop where
  | mk {front x back : List Char} (before : Blank front) (value : Value x)
    (behind : Blank back) : Derives (front ++ (x ++ back))

end Grammar
end Json
end ScopeChain
