/-
JSON text of a tree.

Items and members stand on lines of their own, two blanks further in for each level, and an
empty container is closed at once.  In a string the quote, the backslash and the characters
below U+0020 are escaped.  Everything else stands as it is.
-/
import ScopeChain.Json.Basic
import ScopeChain.Binary64.Shortest

namespace ScopeChain
namespace Json

/-- One character between quotes. -/
def escape (c : Char) : List Char :=
  if c = '\x22' then ['\x5c', '\x22']
  else if c = '\x5c' then ['\x5c', '\x5c']
  else if c = '\n' then ['\x5c', 'n']
  else if c = '\r' then ['\x5c', 'r']
  else if c = '\t' then ['\x5c', 't']
  else if c = '\x0c' then ['\x5c', 'f']
  else if c = '\x08' then ['\x5c', 'b']
  else if c.toNat < 0x20 then '\x5c' :: 'u' :: Digits.hex 4 c.toNat
  else [c]

def writeText (s : String) : List Char :=
  '\x22' :: s.toList.flatMap escape ++ ['\x22']

/-- A double.  The names of NaN and the infinities are no JSON, so a tree that is to be
JSON holds none of the three. -/
def writeFloat : Binary64 → List Char
  | .nan => "NaN".toList
  | .infinite negative => if negative then "-Infinity".toList else "Infinity".toList
  | x => x.chars

/-- A line feed and the blanks in front of the next line. -/
def newLine (level : Nat) : List Char := '\n' :: List.replicate (2 * level) ' '

mutual
/-- A value that stands on a line of the given level. -/
def write (level : Nat) : Json → List Char
  | .null => "null".toList
  | .bool b => if b then "true".toList else "false".toList
  | .int i => Digits.ofInt i
  | .float x => writeFloat x
  | .text s => writeText s
  | .array [] => ['[', ']']
  | .array (x :: rest) =>
    '[' :: (newLine (level + 1) ++ (write (level + 1) x ++ (writeItems (level + 1) rest ++
      (newLine level ++ [']']))))
  | .object [] => ['\x7b', '\x7d']
  | .object ((name, x) :: rest) =>
    '\x7b' :: (newLine (level + 1) ++ (writeText name ++ (':' :: ' ' ::
      (write (level + 1) x ++ (writeMembers (level + 1) rest ++
        (newLine level ++ ['\x7d']))))))

def writeItems (level : Nat) : List Json → List Char
  | [] => []
  | x :: rest => ',' :: (newLine level ++ (write level x ++ writeItems level rest))

def writeMembers (level : Nat) : List (String × Json) → List Char
  | [] => []
  | (name, x) :: rest =>
    ',' :: (newLine level ++ (writeText name ++ (':' :: ' ' ::
      (write level x ++ writeMembers level rest))))
end

def render (j : Json) : String := String.ofList (write 0 j)

end Json
end ScopeChain
