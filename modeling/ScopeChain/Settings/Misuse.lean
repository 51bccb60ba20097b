/-
Options that cannot be used: values of kinds that an option does not take.
-/
import ScopeChain.Text.Quoted
import ScopeChain.Value.Heap

namespace ScopeChain

def Heap.kindOf (h : Heap) : Value → String
  | .null => "NoneType"
  | .bool _ => "bool"
  | .int _ => "int"
  | .float _ => "float"
  | .text _ => "str"
  | .bytes _ => "bytes"
  | .container id =>
    match h.get? id with
    | some (.tuple _) => "tuple"
    | some (.dict _) => "dict"
    | _ => "list"
  | .object _ => "Opaque"
  | .scope _ => "Binding"
  | .script _ => "Script"
  | .snapshot _ => "BindingSnapshot"

def Key.kind : Key → String
  | .null => "NoneType"
  | .bool _ => "bool"
  | .int _ => "int"
  | .float _ => "float"
  | .text _ => "str"
  | .bytes _ => "bytes"
  | .tuple _ => "tuple"

namespace Settings

/-- Why options cannot be used. -/
inductive Misuse where
  /-- The name of an argument is no text. -/
  | notName
  /-- A value of a kind is neither a path nor several. -/
  | notPaths (kind : String)
  /-- A value of a kind is no path. -/
  | notPath (kind : String)
  /-- A path begins at the home of a user that there is not. -/
  | noHome
  /-- A path or a part of it is too long. -/
  | longPath (path : String)
  /-- A value of a kind is no number. -/
  | notNumber (kind : String)
  /-- A value of a kind has no length. -/
  | noLength (kind : String)
  /-- The lead cannot stand in front of the name of a setting. -/
  | notLead (setting : String)
  /-- A path to secrets leads to a file. -/
  | notDirectory
  /-- A value of a kind is no list of words. -/
  | notWords (kind : String)
  /-- A value of a kind is no word. -/
  | notWord (kind : String)
  /-- Bytes are no word. -/
  | bytesWord
  /-- The name of a setting has no value behind it. -/
  | noWordBehind (setting : String)
  /-- Some words give no setting. -/
  | strangers (words : List String)
  deriving DecidableEq, Repr

def Misuse.message : Misuse → String
  | .notName => "keywords must be strings"
  | .notPaths kind => "'" ++ kind ++ "' object is not iterable"
  | .notPath kind =>
    if kind = "bytes" then
      "argument should be a str object or an os.PathLike object returning str, not <class 'bytes'>"
    else "expected str, bytes or os.PathLike object, not " ++ kind
  | .noHome => "Could not determine home directory."
  | .longPath path => "[Errno 36] File name too long: " ++ Quoted.text path
  | .notNumber kind => "unsupported operand type(s) for -: '" ++ kind ++ "' and 'int'"
  | .noLength kind => "object of type '" ++ kind ++ "' has no len()"
  | .notLead setting =>
    "error getting value for field \"" ++ setting ++ "\" from source \"EnvSettingsSource\""
  | .notDirectory => "secrets_dir must reference a directory, not a file"
  | .notWords kind =>
    "cli_parse_args must be a list or tuple of strings, received <class '" ++ kind ++ "'>"
  | .notWord kind => "expected string or bytes-like object, got '" ++ kind ++ "'"
  | .bytesWord => "cannot use a string pattern on a bytes-like object"
  | .noWordBehind setting =>
    "error parsing CLI: argument --" ++ setting ++ ": expected one argument"
  | .strangers words =>
    "error parsing CLI: unrecognized arguments: " ++ String.intercalate " " words

end Settings
end ScopeChain
