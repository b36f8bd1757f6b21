import TableScope.Inspection
import TableScope.Output.Format

/-! # Arguments of the command line

A command line names a command, a file and settings. A setting is written with its long name after
two hyphens or its letter after one; letters may be joined after one hyphen. The value of a setting
is the rest of the same argument, with or without an equals sign before it where a letter is used,
or else the next argument, which then cannot look like a setting. After an argument of two hyphens
nothing is a setting.

`Command.parse` gives no command for a wrong command line; which fault it has is not told. Help is left
out: `--help`, `-h` and `help` should print a text about the usage and succeed, but here they give no
command either, and so count as wrong.
-/
set_option autoImplicit false

namespace TableScope

inductive Scope
  | head
  | tail
  | all
deriving DecidableEq, Repr

def Scope.ofName? (name : List Char) : Option Scope :=
  if name = "head".toList then some head
  else if name = "tail".toList then some tail
  else if name = "show".toList || name = "cat".toList then some all
  else none

inductive Setting
  | debug
  | count
  | columns
  | format
  | condition
deriving DecidableEq, Repr

namespace Setting

/-- Whether a command with the scope has the setting: all rows have no count. -/
def appliesTo (scope : Scope) : Setting → Bool
  | count => scope != .all
  | _ => true

def ofName? (scope : Scope) (name : List Char) : Option Setting :=
  let setting :=
    if name = "debug".toList then some debug
    else if name = "num".toList then some count
    else if name = "columns".toList then some columns
    else if name = "format".toList then some format
    else if name = "filter".toList then some condition
    else none
  setting.filter (appliesTo scope)

def ofLetter? (scope : Scope) (letter : Char) : Option Setting :=
  let setting :=
    if letter = 'd' then some debug
    else if letter = 'n' then some count
    else if letter = 'f' then some condition
    else none
  setting.filter (appliesTo scope)

end Setting

def OutputFormat.ofName? (name : List Char) : Option OutputFormat :=
  if name = "table".toList then some grid
  else if name = "csv".toList then some csv
  else if name = "json".toList then some json
  else none

/-- What the arguments of a command have set so far. Debugging only adds to what is logged, so that it is
checked here and has no part in the command. -/
structure Settings where
  debug : Bool := false
  count : Option Nat := none
  columns : Option (List Char) := none
  format : Option OutputFormat := none
  conditions : List String := []
  file : Option String := none
deriving DecidableEq, Repr

namespace Settings

/-- The values that a count can have. -/
def countLimit : Nat := UInt64.size

/-- Sets what has no value; a second time is a fault. -/
def raiseDebug (settings : Settings) : Option Settings :=
  if settings.debug then none else some { settings with debug := true }

/-- Gives a setting a value. All but the conditions can be set once. -/
def assign (settings : Settings) (setting : Setting) (value : List Char) : Option Settings :=
  match setting with
  | .debug => none
  | .count =>
    if settings.count.isSome then none
    else
      ((Numeral.natural? value).filter (· < countLimit)).map fun n =>
        { settings with count := some n }
  | .columns =>
    if settings.columns.isSome then none else some { settings with columns := some value }
  | .format =>
    if settings.format.isSome then none
    else (OutputFormat.ofName? value).map fun format => { settings with format := some format }
  | .condition => some { settings with conditions := settings.conditions ++ [String.ofList value] }

/-- Takes an argument as the file, which has to have a name and can be given once. -/
def nameFile (settings : Settings) (name : List Char) : Option Settings :=
  if name.isEmpty || settings.file.isSome then none
  else some { settings with file := some (String.ofList name) }

def nameFiles (settings : Settings) : List (List Char) → Option Settings
  | [] => some settings
  | name :: others => (settings.nameFile name).bind fun settings => settings.nameFiles others

end Settings

namespace Argument

/-- Whether an argument is a setting: a hyphen and more. -/
def isSetting (argument : List Char) : Bool := argument.head? == some '-' && 2 ≤ argument.length

/-- A long name, and the value after the first equals sign, if there is one. -/
def splitValue (name : List Char) : List Char × Option (List Char) :=
  let (before, after) := name.span fun c => c != '='
  (before, after.tail?)

/-- Goes through letters up to one that takes a value: that setting, and the value if it follows the
letter. -/
def letters (scope : Scope) :
    List Char → Settings → Option (Settings × Option (Setting × Option (List Char)))
  | [], settings => some (settings, none)
  | letter :: rest, settings =>
    match Setting.ofLetter? scope letter with
    | none => none
    | some .debug => settings.raiseDebug.bind (letters scope rest)
    | some setting =>
      let value := match rest with
        | [] => none
        | '=' :: value => some value
        | value => some value
      some (settings, some (setting, value))

/-- What a single argument sets; a setting whose value is still to come is given back. -/
def take (scope : Scope) (argument : List Char) (settings : Settings) :
    Option (Settings × Option (Setting × Option (List Char))) :=
  match argument with
  | '-' :: '-' :: name =>
    let (name, value) := splitValue name
    match Setting.ofName? scope name, value with
    | none, _ => none
    | some .debug, none => settings.raiseDebug.map fun settings => (settings, none)
    | some .debug, some _ => none
    | some setting, value => some (settings, some (setting, value))
  | '-' :: cluster => letters scope cluster settings
  | _ => none

/-- Goes through the arguments after the name of a command. -/
def takeAll (scope : Scope) : List (List Char) → Settings → Option Settings
  | [], settings => some settings
  | argument :: rest, settings =>
    if argument = ['-', '-'] then settings.nameFiles rest
    else if !isSetting argument then (settings.nameFile argument).bind (takeAll scope rest)
    else match take scope argument settings with
      | none => none
      | some (settings, none) => takeAll scope rest settings
      | some (settings, some (setting, some value)) =>
        (settings.assign setting value).bind (takeAll scope rest)
      | some (settings, some (setting, none)) =>
        match rest with
        | [] => none
        | value :: rest =>
          if isSetting value then none
          else (settings.assign setting value).bind (takeAll scope rest)

end Argument

/-- A command: to tell the version, or to show the table that a request has of a file. -/
inductive Command
  | version
  | inspect (file : String) (request : Request) (format : OutputFormat)
deriving DecidableEq, Repr

namespace Command

/-- The number of rows that the ends of a table show if none is given. -/
def defaultCount : Nat := 10

/-- The command that settings make, if they name a file. -/
def ofSettings? (scope : Scope) (settings : Settings) : Option Command :=
  settings.file.map fun file =>
    let count := settings.count.getD defaultCount
    let window := match scope with
      | .head => .head count
      | .tail => .tail count
      | .all => .all
    let columns := (settings.columns.map columnList).getD []
    inspect file ⟨columns, settings.conditions, window⟩ (settings.format.getD .grid)

/-- Goes through letters before the name of a command: whether one asks for the version, or else
whether debugging is on. -/
def letters : List Char → (debug : Bool) → Option (Bool × Bool)
  | [], debug => some (false, debug)
  | 'V' :: _, debug => some (true, debug)
  | 'd' :: rest, debug => if debug then none else letters rest true
  | _, _ => none

/-- Reads arguments, the name of the command among them. Debugging can be asked for before that name
and after it. -/
def parseFrom : List (List Char) → (debug : Bool) → Option Command
  | [], _ => none
  | argument :: rest, debug =>
    if argument = "--version".toList then some version
    else if argument = "--debug".toList then if debug then none else parseFrom rest true
    else match argument with
      | '-' :: '-' :: _ => none
      | '-' :: cluster =>
        if cluster.isEmpty then none
        else match letters cluster debug with
          | none => none
          | some (true, _) => some version
          | some (false, debug) => parseFrom rest debug
      | name =>
        (Scope.ofName? name).bind fun scope =>
          (Argument.takeAll scope rest {}).bind (ofSettings? scope)

def parse (arguments : List String) : Option Command :=
  parseFrom (arguments.map String.toList) false

end Command

end TableScope
