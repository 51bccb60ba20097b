/-
Settings by the words of a command line.

A word `--name=value` gives a setting its value, and after a word `--name` the next word is
the value.  All other words are strangers.  Of one setting the last word counts.
-/
import ScopeChain.Settings.Misuse
import ScopeChain.Settings.Setting
import ScopeChain.Settings.Table
import ScopeChain.Text.Blank
import ScopeChain.Text.Lower

namespace ScopeChain
namespace Settings

/-- What a word says. -/
inductive Word where
  /-- The name of a setting, with its value if the word has it. -/
  | flag (s : Setting) (value : Option String)
  /-- A word that begins as a name does, but is none. -/
  | stranger (text : String)
  | plain (text : String)
  deriving DecidableEq, Repr

namespace Word

/-- The digits of a word that is a negative number, with a point among them or without. -/
def isNegative : List Char → Bool
  | '-' :: rest =>
    let behind := (rest.dropWhile Char.isDigit).drop 1
    !rest.isEmpty && rest.all (fun c => c.isDigit || c = '.') &&
      (rest.all Char.isDigit || (!behind.isEmpty && behind.all Char.isDigit))
  | _ => false

/-- A word with its name in lower case, which ends at a blank or at `=`.  What is behind a
line feed is left out. -/
def lowered (text : String) : String :=
  let (name, rest) := text.toList.span fun c => c ≠ '=' && !Blank.isBlank c
  if name.head? = some '-' && 1 < name.length then
    Lower.text (String.ofList name) ++ String.ofList (rest.takeWhile (· ≠ '\n'))
  else text

/-- The setting of a name behind two hyphens. -/
def setting? (name : List Char) : Option Setting :=
  Setting.all.find? fun s => name = '-' :: '-' :: s.name.toList

def ofText (text : String) : Word :=
  let cs := text.toList
  let (name, rest) := cs.span (· ≠ '=')
  match setting? name with
  | some s => .flag s (if rest.isEmpty then none else some (String.ofList (rest.drop 1)))
  | none =>
    if cs.head? = some '-' && 1 < cs.length && !isNegative cs && !cs.contains ' ' then
      .stranger text
    else .plain text

/-- What words give, and the strangers among them. -/
def read (found : Table String) (strangers : List String) :
    List Word → Except Misuse (Table String × List String)
  | [] => .ok (found, strangers.reverse)
  | .flag s (some value) :: rest => read (found.put s.name value) strangers rest
  | .flag s none :: .plain value :: rest => read (found.put s.name value) strangers rest
  | .flag s none :: _ => .error (.noWordBehind s.name)
  | .stranger text :: rest | .plain text :: rest => read found (text :: strangers) rest

/-- A setting's word and its value give the setting. -/
theorem read_flag (s : Setting) (value : String) :
    read [] [] [.flag s none, .plain value] = .ok ([(s.name, value)], []) := rfl

end Word

/-- The settings of a command line.  Names are in any case unless `exactCase` is set. -/
def ofCommandLine (exactCase : Bool) (texts : List String) : Except Misuse (Table String) :=
  match Word.read [] [] (texts.map fun t => .ofText (if exactCase then t else Word.lowered t)) with
  | .error m => .error m
  | .ok (found, []) => .ok found
  | .ok (_, strangers) => .error (.strangers strangers)

/-- A value of an option as the words of a command line.  False and zero have none. -/
def commandLineOf (h : Heap) (v : Value) : Except Misuse (List String) :=
  let wordsOf (items : List Value) : Except Misuse (List String) :=
    items.mapM fun
      | .text t => .ok t
      | .bytes _ => .error .bytesWord
      | v => .error (.notWord (h.kindOf v))
  match v with
  | .null | .bool _ => .ok []
  | .int 0 => .ok []
  | .float x => if x.numEq (.zero false) then .ok [] else .error (.notWords "float")
  | .container id =>
    match h.get? id with
    | some (.list items) | some (.tuple items) => wordsOf items
    | _ => .error (.notWords "dict")
  | v => .error (.notWords (h.kindOf v))

end Settings
end ScopeChain
