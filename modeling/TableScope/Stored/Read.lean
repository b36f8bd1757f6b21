import TableScope.Stored.File
import TableScope.Table.Operations

/-! # Reading tables from files

Columns can be asked for by name, and rows by their number. Only the columns asked for are decoded:
they are loaded in the order of the file, and then put in the order asked for by name.
-/
set_option autoImplicit false

namespace TableScope

inductive ReadError
  | missingFile
  /-- Something is at the path, and a step of reading it failed. -/
  | malformed (fault : Fault)
  | columnNotFound (name : String)
  /-- A column with a zone that is no offset. -/
  | invalidZone (column zone : String)
  | table (error : TableError)
deriving DecidableEq

/-- The texts of a failure at a path, the outermost first: the step, what it reports, and its cause. A
report shows the text of its cause, which so comes twice; the conversion of a column has no report. -/
def Fault.texts (path : String) (fault : Fault) : List String :=
  let text := fault.cause.text
  match fault.step with
  | .opening => ("Failed to open " ++ path ++ ": " ++ text) :: fault.cause.texts
  | .metadata =>
    ("Failed to read Parquet metadata from " ++ path) :: ("Parquet error: " ++ text) ::
      fault.cause.texts
  | .preparation => ("Failed to read " ++ path) :: ("Parquet error: " ++ text) :: fault.cause.texts
  | .batch => ("Failed to decode " ++ path) :: ("Arrow error: " ++ text) :: fault.cause.texts
  | .column name => ("Failed to decode column '" ++ name ++ "'") :: fault.cause.texts

namespace ReadError

/-- The texts of an error about the file at a path and of the errors behind it, the outermost first. -/
def texts (path : String) : ReadError → List String
  | missingFile => Fault.texts path ⟨.opening, ⟨"No such file or directory (os error 2)", []⟩⟩
  | malformed fault => fault.texts path
  | columnNotFound name => ["Column '" ++ name ++ "' not found in file"]
  | invalidZone column zone =>
    Fault.texts path ⟨.column column, ⟨"Parser error: Invalid timezone \"" ++ zone ++
      "\": only offset based timezones supported without chrono-tz feature", []⟩⟩
  | table error => [error.message]

def message (path : String) (error : ReadError) : String := ": ".intercalate (error.texts path)

end ReadError

structure ReadOptions where
  /-- The names of the columns, or none for all columns. -/
  columns : List String := []
  limit : Option Nat := none
deriving DecidableEq, Repr

/-- The names without the repetitions of earlier ones. -/
def distinct : List String → List String
  | [] => []
  | name :: others => name :: (distinct others).filter fun other => other != name

namespace Batch

/-- The rows whose cells are the first, second, … of each column. -/
def transpose : (rowCount : Nat) → List (List Cell) → List Row
  | 0, _ => []
  | rowCount + 1, columns =>
    columns.map (fun cells => cells.headD .null) :: transpose rowCount (columns.map List.tail)

/-- The cells of each column, up to the first that cannot be shown. -/
def decode : List StoredColumn → Except ReadError (List (List Cell))
  | [] => .ok []
  | stored :: others =>
    match stored.type.invalidZone? with
    | some zone => .error (.invalidZone stored.name zone)
    | none => do return stored.cells :: (← decode others)

def rows (batch : Batch) : Except ReadError (List Row) := do
  return transpose batch.rowCount (← decode batch.columns)

def allRows : List Batch → Except ReadError (List Row)
  | [] => .ok []
  | batch :: others => do
    let first ← batch.rows
    let rest ← allRows others
    return first ++ rest

/-- The number of rows that are loaded at once. -/
def size : Nat := 1024

/-- The position of the first column of each name, up to the first name that no column has. -/
def positions (batch : Batch) : List String → Except ReadError (List Nat)
  | [] => .ok []
  | name :: others =>
    match batch.schema.position? name with
    | some position => do return position :: (← batch.positions others)
    | none => .error (.columnNotFound name)

/-- Reads a table out of the columns of a file. -/
def read (batch : Batch) (options : ReadOptions) : Except ReadError Table := do
  let names := distinct options.columns
  let positions ← batch.positions names
  let kept := if names.isEmpty then batch else batch.keep positions.contains
  let limited := options.limit.elim kept fun limit => kept.slice 0 limit
  let rows ← allRows (limited.split size)
  let table ← (Table.ofRows kept.schema rows).mapError .table
  if names.isEmpty then return table
  (table.select names).mapError .table

end Batch

/-- Reads what is at a path. The names are looked up before anything is loaded, and rows before a damaged
batch are converted before it is met, which a limit can prevent. -/
def FileContent.read (content : FileContent) (options : ReadOptions) : Except ReadError Table :=
  match content with
  | .missing => .error .missingFile
  | .unopened cause => .error (.malformed ⟨.opening, cause⟩)
  | .undescribed cause => .error (.malformed ⟨.metadata, cause⟩)
  | .unprepared batch cause => do
    let _ ← batch.positions (distinct options.columns)
    .error (.malformed ⟨.preparation, cause⟩)
  | .damaged before column cause =>
    if options.limit.any (· ≤ before.rowCount) then before.read options
    else do
      let _ ← before.read { options with limit := none }
      .error (.malformed ⟨column.elim .batch .column, cause⟩)
  | .table batch => batch.read options

end TableScope
