/-
The configuration and its sources.

Each setting is taken from the first source that has it: the words of a command line among
the options, the arguments, the environment, the settings file, and last its default.  In
arguments names are in any case.  In the environment and the file they stand behind a lead,
which is `SCRIPTENV_` unless the options say otherwise.  A chosen value that does not fit is a
finding and not a reason to ask the next source.
-/
import ScopeChain.Check.Coerce
import ScopeChain.Settings.Expand
import ScopeChain.Settings.Outer

namespace ScopeChain

structure Config where
  selfName : String
  contextName : String
  threadSafe : Bool
  maxSnapshotDepth : Nat
  deriving DecidableEq, Repr

/-- What a configuration is made from: the environment in its order, and the bytes of the
settings file if there is one. -/
structure Sources where
  environment : Table String
  file : Option (List UInt8)
  deriving DecidableEq, Repr

namespace Settings

/-- The value of the first argument whose name is the setting's but for case. -/
def Setting.argument? (s : Setting) (arguments : Metadata) : Option Value :=
  (arguments.find? fun entry =>
    match entry.1 with
    | .text name => Lower.text name == s.name
    | _ => false).map (·.2)

/-- Why there is no configuration. -/
inductive Failure where
  | invalid (faults : List Fault)
  /-- The settings file has no text. -/
  | undecodable (r : Encoding.Refusal)
  | misused (m : Misuse)
  deriving Repr

/-- The assignments of the settings file. -/
def assignments (options : Options) (s : Sources) :
    Except Failure (Table (Option String)) :=
  match s.file with
  | none => .ok []
  | some bytes =>
    match options.encoding.bind (·.decode bytes) with
    | .ok cs => .ok (fileAssignments s.environment cs)
    | .error r => .error (.undecodable r)

/-- The assignments of the files at some paths.  There is no file but the settings file, and
the first path that fails ends the search. -/
def assignmentsAt (options : Options) (s : Sources) :
    List PathGiven → Except Failure (Table (Option String))
  | [] => .ok []
  | .error m :: _ => .error (.misused m)
  | .ok false :: rest => assignmentsAt options s rest
  | .ok true :: rest =>
    match assignments options s with
    | .error e => .error e
    | .ok found =>
      match assignmentsAt options s rest with
      | .error e => .error e
      | .ok _ => .ok found

/-- Why secrets cannot be sought. -/
def secretsMisuse? (options : Options) (s : Sources) : Option Misuse :=
  match options.secrets.findSome? fun
      | .error m => some m
      | .ok _ => none with
  | some m => some m
  | none =>
    if s.file.isSome && options.secrets.any fun
        | .ok leads => leads
        | .error _ => false
    then some .notDirectory
    else none

/-- A word of a command line as a host value.  One word stands for null. -/
def wordValue (word : String) : Value := if word = "null" then .null else .text word

/-- The value of a setting before it is checked. -/
def chosen? (words : Table String) (arguments : Metadata) (environment file : Table Value)
    (s : Setting) : Option Value :=
  ((words.get? s.name).map wordValue).or <|
    (s.argument? arguments).or ((environment.get? s.name).or (file.get? s.name))

/-- The check of a setting.  A setting that no source has is its default. -/
def checkSetting {α : Type} (s : Setting) (check : Value → Except Issue α) (default : α)
    (chosen : Option Value) : Checked α :=
  match chosen with
  | none => .ok default
  | some v => Checked.inside (.field s.name) (.ofCoercion (check v))

/-- The least and the greatest depth limit. -/
def leastLimit : Int := 1

def greatestLimit : Int := 10000

def check (chosen : Setting → Option Value) : Checked Config :=
  let selfName := checkSetting .selfName Coerce.filledText "self" (chosen .selfName)
  let contextName := checkSetting .contextName Coerce.filledText "context" (chosen .contextName)
  let threadSafe := checkSetting .threadSafe Coerce.boolean true (chosen .threadSafe)
  let limit := checkSetting .maxSnapshotDepth (Coerce.integerBetween leastLimit greatestLimit)
    256 (chosen .maxSnapshotDepth)
  match selfName, contextName, threadSafe, limit with
  | .ok selfName, .ok contextName, .ok threadSafe, .ok limit =>
    .ok ⟨selfName, contextName, threadSafe, limit.toNat⟩
  | selfName, contextName, threadSafe, limit =>
    .error (selfName.faults ++ contextName.faults ++ threadSafe.faults ++ limit.faults)

def load (options : Options) (arguments : Metadata) (s : Sources) : Except Failure Config :=
  match assignmentsAt options s options.files with
  | .error e => .error e
  | .ok assignments =>
    match options.words.bind (ofCommandLine options.exactCase) with
    | .error m => .error (.misused m)
    | .ok words =>
      match options.leadMisuse.or (secretsMisuse? options s) with
      | some m => .error (.misused m)
      | none =>
        match check (chosen? words arguments (options.ofEnvironment s.environment)
            (options.ofFile assignments)) with
        | .ok config => .ok config
        | .error fs => .error (.invalid fs)

/-- The configuration that arguments and sources give, under the options among the
arguments. -/
def make (h : Heap) (arguments : Metadata) (s : Sources) : Except Failure Config :=
  match Options.ofArguments h arguments with
  | .error m => .error (.misused m)
  | .ok options => load options arguments s

namespace Failure

def message : Failure → String
  | .invalid faults => Fault.report faults
  | .undecodable r => r.message
  | .misused m => m.message

end Failure
end Settings
end ScopeChain
