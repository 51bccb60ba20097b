/-
Settings files.

A file is a list of assignments `NAME=value`, one a line, with comments behind `#`, and
with `export` in front of a name allowed.  A name may stand in apostrophes.  A value stands
in apostrophes, in double quotes, or without quotes to the end of its line, and quoted
values may span lines.  A name without `=` is kept without a value.  A line that is no
assignment is skipped from the place where that shows.
-/
import ScopeChain.Text.Blank

namespace ScopeChain
namespace Settings

/-- A name with its value, if it has one. -/
structure Assignment where
  name : String
  value : Option String
  deriving DecidableEq, Repr

namespace File

/-- Makes every line end a line feed. -/
def unifyBreaks : List Char → List Char
  | '\r' :: '\n' :: rest => '\n' :: unifyBreaks rest
  | c :: rest => (if c = '\r' then '\n' else c) :: unifyBreaks rest
  | [] => []

/-- The text of a file.  A byte order mark in front is no part of it. -/
def normalize (cs : List Char) : List Char :=
  match unifyBreaks cs with
  | '\uFEFF' :: rest => rest
  | cs => cs

/-- Drops `export` and the blanks behind it, of which there is at least one. -/
def dropExport (cs : List Char) : List Char :=
  match cs with
  | 'e' :: 'x' :: 'p' :: 'o' :: 'r' :: 't' :: c :: rest =>
    if Blank.isInner c then rest.dropWhile Blank.isInner else cs
  | _ => cs

/-- Whether a character can be part of a name without quotes. -/
def isNameChar (c : Char) : Bool := c ≠ '=' && c ≠ '#' && !Blank.isBlank c

/-- The name at the front.  In front of a comment there is none, which is no fault. -/
def readName (cs : List Char) : Option (Option (List Char) × List Char) :=
  match cs with
  | '#' :: _ => some (none, cs)
  | '\x27' :: rest =>
    match rest.span (· ≠ '\x27') with
    | ([], _) => none
    | (name, _ :: rest) => some (some name, rest)
    | (_, []) => none
  | _ =>
    match cs.span isNameChar with
    | ([], _) => none
    | (name, rest) => some (some name, rest)

/-- The body of a quoted value and what follows its closing quote. -/
def readQuoted (q : Char) : List Char → Option (List Char × List Char)
  | [] => none
  | [c] => if c = q then some ([], []) else none
  | c :: d :: rest =>
    if c = q then some ([], d :: rest)
    -- A backslash takes the next character with it, which so closes nothing.
    else if c = '\x5c' then (readQuoted q rest).map fun (body, rest) => (c :: d :: body, rest)
    else (readQuoted q (d :: rest)).map fun (body, rest) => (c :: body, rest)

/-- The character that a backslash and a letter stand for between double quotes. -/
def doubleEscape? (c : Char) : Option Char :=
  if c = '\x5c' ∨ c = '\x27' ∨ c = '\x22' then some c
  else if c = 'a' then some '\x07'
  else if c = 'b' then some '\x08'
  else if c = 'f' then some '\x0c'
  else if c = 'n' then some '\n'
  else if c = 'r' then some '\r'
  else if c = 't' then some '\t'
  else if c = 'v' then some '\x0b'
  else none

/-- Between apostrophes only the backslash and the apostrophe are escaped. -/
def singleEscape? (c : Char) : Option Char :=
  if c = '\x5c' ∨ c = '\x27' then some c else none

/-- Replaces escapes.  A backslash that begins none stands for itself. -/
def unescape (escape? : Char → Option Char) : List Char → List Char
  | [] => []
  | [c] => [c]
  | c :: d :: rest =>
    if c = '\x5c' then
      match escape? d with
      | some e => e :: unescape escape? rest
      | none => c :: unescape escape? (d :: rest)
    else c :: unescape escape? (d :: rest)

/-- Drops a comment, which begins at blanks in front of `#`. -/
def cutComment : List Char → List Char
  | [] => []
  | c :: rest =>
    if Blank.isBlank c && (rest.dropWhile Blank.isBlank).head? = some '#' then []
    else c :: cutComment rest

/-- The value behind `=`.  Blanks in front are no part of it.  Without quotes it ends where
a comment begins, and blanks in front of the comment may be those behind `=`. -/
def readValue (cs : List Char) : Option (List Char × List Char) :=
  match cs.dropWhile Blank.isInner with
  | '\x27' :: body =>
    (readQuoted '\x27' body).map fun (v, rest) => (unescape singleEscape? v, rest)
  | '\x22' :: body =>
    (readQuoted '\x22' body).map fun (v, rest) => (unescape doubleEscape? v, rest)
  | _ =>
    let (line, rest) := cs.span fun c => !Blank.isBreak c
    some (Blank.trimRight ((cutComment line).dropWhile Blank.isInner), rest)

/-- Drops a comment at the front. -/
def dropComment (cs : List Char) : List Char :=
  match cs.dropWhile Blank.isInner with
  | '#' :: rest => rest.dropWhile fun c => !Blank.isBreak c
  | _ => cs

def endLine? (cs : List Char) : Option (List Char) :=
  match cs.dropWhile Blank.isInner with
  | [] => some []
  | c :: rest => if Blank.isBreak c then some rest else none

def skipLine (cs : List Char) : List Char :=
  (cs.dropWhile fun c => !Blank.isBreak c).drop 1

/-- The assignment that begins with a name at the front, or the place from which its line is
skipped. -/
def readLine (cs : List Char) : Except (List Char) (Option Assignment × List Char) :=
  match readName cs with
  | none => .error cs
  | some (name, rest) =>
    let rest := rest.dropWhile Blank.isInner
    let value : Except (List Char) (Option (List Char) × List Char) := match rest with
      | '=' :: rest =>
        match readValue rest with
        | some (v, rest) => .ok (some v, rest)
        | none => .error rest
      | _ => .ok (none, rest)
    match value with
    | .error stop => .error stop
    | .ok (v, rest) =>
      let rest := dropComment rest
      match endLine? rest with
      | none => .error rest
      | some rest =>
        .ok (name.map fun n => ⟨String.ofList n, v.map String.ofList⟩, rest)

/-- The assignments of a text.  Each line takes at least one character, so there is `room`
for as many as there are characters. -/
def readLines : (room : Nat) → List Char → List Assignment
  | 0, _ => []
  | room + 1, cs =>
    match cs.dropWhile Blank.isBlank with
    | [] => []
    | cs =>
      match readLine (dropExport cs) with
      | .ok (some a, rest) => a :: readLines room rest
      | .ok (none, rest) => readLines room rest
      | .error stop => readLines room (skipLine stop)

def read (cs : List Char) : List Assignment :=
  let cs := normalize cs
  readLines cs.length cs

end File
end Settings
end ScopeChain
