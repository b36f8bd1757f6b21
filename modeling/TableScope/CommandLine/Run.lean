import TableScope.CommandLine.Arguments

/-! # Running commands

A run ends in one of three ways: with the text of a table, with a message about the file or the
conditions, or, if the command line is wrong, with nothing to say: messages about usage are left out.

A log is written to the stream of the messages, and before the message of a run. What is in it depends on
the setting for debugging and on the environment, and says nothing about how the run ends; it is given
as a text (`Outcome.stderr`).
-/
set_option autoImplicit false

namespace TableScope

inductive Outcome
  | output (text : List Char)
  | failure (message : List Char)
  | wrongUsage
deriving DecidableEq, Repr

namespace Outcome

def exitCode : Outcome → Nat
  | output _ => 0
  | failure _ => 1
  | wrongUsage => 2

def stdout : Outcome → List Char
  | output text => text
  | _ => []

def message : Outcome → List Char
  | failure message => message
  | _ => []

/-- What a run with some log writes besides its output. Without debugging the log is empty, unless the
environment asks for one. -/
def stderr (outcome : Outcome) (log : List Char := []) : List Char := log ++ outcome.message

end Outcome

/-- The message of an inspection that failed. An error of the conditions is told apart from all
others. -/
def InspectionError.report (path : String) : InspectionError → List Char
  | filter error => "Invalid filter: ".toList ++ error.message.toList
  | read error => "Error: ".toList ++ (error.message path).toList
  | table error => "Error: ".toList ++ error.message.toList

namespace Command

def versionText : List Char := "pqcat 0.1.0".toList

/-- The outcome of a command; each text ends with a line feed of its own. -/
def run (content : String → FileContent) : Command → Outcome
  | version => .output (versionText ++ ['\n'])
  | inspect file request format =>
    match request.run (content file) with
    | .ok table => .output (table.render format ++ ['\n'])
    | .error error => .failure (error.report file ++ ['\n'])

def runArguments (content : String → FileContent) (arguments : List String) : Outcome :=
  match parse arguments with
  | some command => command.run content
  | none => .wrongUsage

end Command

end TableScope
