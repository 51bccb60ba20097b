/-
Settings outside the arguments: what the names and values of the environment and of the
settings file give under some options.

A setting is taken from the name that its lead and its own name make, in any case unless the
options ask for theirs.  A settings file can also give a setting by way of names that are no
setting's: a name that begins with the lead counts as what is behind it, and any other as
itself.
-/
import ScopeChain.Settings.Options
import ScopeChain.Settings.Table
import ScopeChain.Text.Lower

namespace ScopeChain
namespace Settings
namespace Options

/-- A name as it is compared. -/
def fold (options : Options) (name : String) : String :=
  if options.exactCase then name else Lower.text name

/-- The name of a setting outside the arguments, as it is compared. -/
def outerName (options : Options) (s : Setting) : String :=
  options.fold ((if options.leadsNames then options.lead else "") ++ s.name)

/-- Pairs by their names as they are compared.  Of one name the last pair counts. -/
def variablesOf (options : Options) (pairs : Table (Option String)) : Table (Option String) :=
  (pairs.filter fun pair => !(options.skipsEmpty && pair.2 == some "")).foldl
    (fun t pair => t.put (options.fold pair.1) pair.2) []

/-- A value outside the arguments as a host value. -/
def reading (options : Options) (value : String) : Value :=
  if options.nullText = some value then .null else .text value

/-- The settings that variables have, by the names of settings.  A name without a value gives
nothing. -/
def settingsOf (options : Options) (variables' : Table (Option String)) : Table Value :=
  Setting.all.filterMap fun s =>
    (variables'.get? (options.outerName s)).join.map fun value =>
      (s.name, options.reading value)

/-- What a name that is no setting's stands for. -/
def plainName (options : Options) (name : String) : String :=
  let lead := options.fold options.lead
  if lead.toList.isPrefixOf name.toList then
    String.ofList (name.toList.drop options.lead.length)
  else name

/-- Whether a variable of a file is taken for what its name stands for: its value is not
empty, and no setting was taken from its name or, if there is a lead, is called by it. -/
def isFree (options : Options) (found : Table Value) (name value : String) : Bool :=
  !value.isEmpty && (found.get? name).isNone &&
    (options.lead.isEmpty || Setting.all.all (·.name ≠ name)) &&
    Setting.all.all (options.outerName · ≠ name)

/-- What is found in a file with one more of its variables. -/
def addFree (options : Options) (found : Table Value) (pair : String × Option String) :
    Table Value :=
  match pair with
  | (name, some value) =>
    if options.isFree found name value then found.put (options.plainName name) (.text value)
    else found
  | (_, none) => found

/-- What the environment gives. -/
def ofEnvironment (options : Options) (environment : Table String) : Table Value :=
  options.settingsOf (options.variablesOf (environment.map fun (name, v) => (name, some v)))

/-- What the assignments of a file give. -/
def ofFile (options : Options) (assignments : Table (Option String)) : Table Value :=
  let variables' := options.variablesOf assignments
  variables'.foldl options.addFree (options.settingsOf variables')

end Options
end Settings
end ScopeChain
