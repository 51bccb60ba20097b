/-
Blank characters.

Two classes are in use.  Numbers are trimmed of `White_Space`, the Unicode property.
Settings files also take the four information separators U+001C to U+001F as blank.
-/
namespace ScopeChain
namespace Blank

/-- The Unicode property `White_Space`. -/
def isWhite (c : Char) : Bool :=
  let n := c.toNat
  (0x9 ≤ n && n ≤ 0xD) || n = 0x20 || n = 0x85 || n = 0xA0 || n = 0x1680 ||
    (0x2000 ≤ n && n ≤ 0x200A) || n = 0x2028 || n = 0x2029 || n = 0x202F || n = 0x205F ||
    n = 0x3000

/-- White space and the information separators. -/
def isBlank (c : Char) : Bool :=
  isWhite c || (0x1C ≤ c.toNat && c.toNat ≤ 0x1F)

/-- A line ends at a line feed or a carriage return. -/
def isBreak (c : Char) : Bool := c = '\n' || c = '\r'

def isInner (c : Char) : Bool := isBlank c && !isBreak c

def trim (cs : List Char) : List Char :=
  ((cs.dropWhile isWhite).reverse.dropWhile isWhite).reverse

def trimRight (cs : List Char) : List Char := (cs.reverse.dropWhile isBlank).reverse

theorem isBlank_of_isWhite {c : Char} (h : isWhite c = true) : isBlank c = true := by
  simp [isBlank, h]

end Blank
end ScopeChain
