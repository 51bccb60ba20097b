/-
Options of a configuration: how its sources outside the arguments are read.

Options are given among the arguments, under names that begin with `_` and that are in one
case only.  An option that is null is left as it is, except that null as the settings file
means that there is none.
-/
import ScopeChain.Settings.CommandLine
import ScopeChain.Text.Encoding.Names

namespace ScopeChain
namespace Settings

def fileName : String := ".env"

/-- A path that was given: whether it leads to the settings file, or why it is none. -/
abbrev PathGiven := Except Misuse Bool

structure Options where
  /-- The files that are read, in their order. -/
  files : List PathGiven := [.ok true]
  /-- How a settings file spells its text. -/
  encoding : Except Encoding.Refusal Encoding := .ok .utf8
  /-- What can stand in front of the names of settings. -/
  lead : String := "SCRIPTENV_"
  /-- Whether the names of settings need the lead. -/
  leadsNames : Bool := true
  /-- Why the lead cannot be put in front of a name. -/
  leadMisuse : Option Misuse := none
  /-- Whether a name has to be in the case of the lead and the setting. -/
  exactCase : Bool := false
  /-- Whether a name with an empty value counts as missing. -/
  skipsEmpty : Bool := false
  /-- The value that stands for null. -/
  nullText : Option String := none
  /-- The directories in which secrets are sought. -/
  secrets : List PathGiven := []
  /-- The words of a command line. -/
  words : Except Misuse (List String) := .ok []

namespace Options

def partsOf (path : String) : List String :=
  ((runs (· ≠ '/') path.toList).filter (· ≠ ['.'])).map String.ofList

/-- The users that have a home: the one who asks, and the first of all. -/
def homes : List String := ["~", "~root"]

/-- The greatest number of bytes in a part of a path and in all of it. -/
def partLimit : Nat := 255

def pathLimit : Nat := 4095

/-- Whether a path is too long to be followed: it is so in all, or in the first part that
does not lead upwards. -/
def isLong (path : String) (parts : List String) : Bool :=
  pathLimit < path.utf8ByteSize ||
    (parts.find? (· ≠ "..")).any fun part => partLimit < part.utf8ByteSize

/-- Where a path leads.  The settings file is in the directory where paths that do not begin
with `/` start. -/
def pathOf (path : String) : PathGiven :=
  let parts := partsOf path
  let absolute := path.toList.head? = some '/'
  let plain := (if absolute then "/" else "") ++ String.intercalate "/" parts
  let first := parts.head?.getD ""
  if !absolute && first.toList.head? = some '~' then
    if homes.contains first then .ok false else .error .noHome
  else if path.toList.contains '\x00' then .ok false
  else if isLong plain parts then .error (.longPath plain)
  else .ok (!absolute && parts == [fileName])

def path (h : Heap) : Value → PathGiven
  | .text path => pathOf path
  | v => .error (.notPath (h.kindOf v))

def keyPath : Key → PathGiven
  | .text path => pathOf path
  | k => .error (.notPath k.kind)

/-- A value as several paths. -/
def paths (h : Heap) : Value → List PathGiven
  | .null => []
  | .text path => [pathOf path]
  -- Bytes are numbers, and a snapshot is a list of pairs, which are no paths.
  | .bytes bs => bs.map fun _ => .error (.notPath "int")
  | .snapshot _ => [.error (.notPath "tuple")]
  | .container id =>
    match h.get? id with
    | some (.list items) | some (.tuple items) => items.map (path h)
    | some (.dict entries) => entries.map fun entry => keyPath entry.1
    | none => []
  | v => [.error (.notPaths (h.kindOf v))]

/-- Whether a value switches an option on.  Null, false, zero and whatever is empty do
not. -/
def isOn (h : Heap) : Value → Bool
  | .null => false
  | .bool b => b
  | .int i => i != 0
  | .float x => !x.numEq (.zero false)
  | .text s => !s.isEmpty
  | .bytes bs => !bs.isEmpty
  | .container id =>
    match h.get? id with
    | some (.list items) | some (.tuple items) => !items.isEmpty
    | some (.dict entries) => !entries.isEmpty
    | none => false
  | .object _ | .scope _ | .script _ | .snapshot _ => true

/-- The value that arguments give an option, unless it is null. -/
def given? (arguments : Metadata) (name : String) : Option Value :=
  match fieldOf arguments name with
  | some .null => none
  | v => v

def flag (h : Heap) (arguments : Metadata) (name : String) : Bool :=
  match given? arguments name with
  | some v => isOn h v
  | none => false

/-- A value as the name of an encoding. -/
def encodingOf (h : Heap) : Value → Except Encoding.Refusal Encoding
  | .text name => Encoding.named name
  | v => .error (.notName (h.kindOf v))

/-- The lead that a value gives, or the reason why there is none.  Bytes, lists, tuples and
dicts fail where they meet a name, and all else for having no length. -/
def leadOf (h : Heap) : Value → Except Misuse (Except Misuse String)
  | .text s => .ok (.ok s)
  | .bytes _ | .container _ => .ok (.error (.notLead Setting.selfName.name))
  | v => .error (.noLength (h.kindOf v))

/-- Whether the names of settings need the lead, by the value that says what the lead is
for. -/
def leadsNamesOf : Value → Bool
  | .text s => s = "variable" || s = "all"
  | _ => false

/-- Whether a value can count how often names are split.  Nothing splits them. -/
def isCount (h : Heap) (v : Value) : Bool :=
  match v with
  | .bool _ | .int _ | .float _ => true
  | v => !isOn h v

/-- The first misuse among the names of arguments and the counts. -/
def misuse? (h : Heap) (arguments : Metadata) : Option Misuse :=
  if arguments.any fun entry => entry.1.kind ≠ "str" then some .notName
  else
    match given? arguments "_env_nested_max_split" with
    | some v => if isCount h v then none else some (.notNumber (h.kindOf v))
    | none => none

/-- The options that arguments give. -/
def ofArguments (h : Heap) (arguments : Metadata) : Except Misuse Options :=
  let standard : Options := {}
  match misuse? h arguments with
  | some m => .error m
  | none =>
    match (given? arguments "_env_prefix").elim (.ok (.ok standard.lead)) (leadOf h) with
    | .error m => .error m
    | .ok lead =>
      let leadsNames :=
        (given? arguments "_env_prefix_target").elim standard.leadsNames leadsNamesOf
      .ok {
        files := (fieldOf arguments "_env_file").elim standard.files (paths h)
        encoding := (given? arguments "_env_file_encoding").elim standard.encoding (encodingOf h)
        lead := match lead with
          | .ok lead => lead
          | .error _ => ""
        leadsNames
        leadMisuse := match lead with
          | .error m => if leadsNames then some m else none
          | .ok _ => none
        exactCase := flag h arguments "_case_sensitive"
        skipsEmpty := flag h arguments "_env_ignore_empty"
        nullText := match given? arguments "_env_parse_none_str" with
          | some (.text s) => some s
          | _ => none
        secrets := (given? arguments "_secrets_dir").elim standard.secrets (paths h)
        words := (given? arguments "_cli_parse_args").elim standard.words (commandLineOf h) }

/-- Without arguments the options are the standard ones. -/
theorem ofArguments_nil (h : Heap) : ofArguments h [] = .ok {} := rfl

end Options
end Settings
end ScopeChain
