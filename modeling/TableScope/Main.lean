import TableScope.CommandLine.Run

/-! # The command line program

Files are read as bytes, of which only the footer is understood: a file with a sound footer, so every
file that does hold a table, is reported as one whose metadata is not decoded. Failures of the system are
reported in the words of the runtime system, and nothing is logged.
-/
set_option autoImplicit false

namespace TableScope

/-- What is at the path of a command's file. A directory can be opened and fails when it is read. -/
def contentAt (path : String) : IO FileContent := do
  match ← (IO.FS.Handle.mk path .read).toBaseIO with
  | .error (.noFileOrDirectory ..) => return .missing
  | .error error => return .unopened ⟨error.toString, []⟩
  | .ok handle =>
    match ← handle.readBinToEnd.toBaseIO with
    | .error error => return .undescribed ⟨error.toString, []⟩
    | .ok bytes => return .bytes bytes.toList

end TableScope

open TableScope in
def main (arguments : List String) : IO UInt32 := do
  let content ← match Command.parse arguments with
    | some (.inspect file _ _) => contentAt file
    | _ => pure .missing
  let outcome := Command.runArguments (fun _ => content) arguments
  IO.print (String.ofList outcome.stdout)
  IO.eprint (String.ofList outcome.stderr)
  return outcome.exitCode.toUInt32
