import TableScope.Stored.Read
import TableScope.Text.Pieces

/-! # Inspections

An inspection reads some columns of a file, keeps the rows that satisfy all of its conditions, and
shows a window of them. A window at the head limits the rows that are read, so its conditions only
see these; one at the tail is taken of the rows that satisfy the conditions.
-/
set_option autoImplicit false

namespace TableScope

inductive Window
  | all
  | head (count : Nat)
  | tail (count : Nat)
deriving DecidableEq, Repr

structure Request where
  /-- The names of the columns in order, or none for all columns. -/
  columns : List String
  conditions : List String
  window : Window
deriving DecidableEq, Repr

/-- Why an inspection fails: at reading, because of its conditions, or in between. -/
inductive InspectionError
  | read (error : ReadError)
  | filter (error : FilterError)
  | table (error : TableError)
deriving DecidableEq

/-- An error in a filtered table is an error of the filter if a predicate did not apply. -/
def InspectionError.ofFiltering : TableError → InspectionError
  | .evaluation error => filter (.evaluation error)
  | error => table error

namespace Request

def readOptions (request : Request) : ReadOptions where
  columns := request.columns
  limit := match request.window with
    | .head count => some count
    | .all | .tail _ => none

/-- The table that a request shows of a file. -/
def run (request : Request) (content : FileContent) : Except InspectionError Table := do
  let whole ← (content.read request.readOptions).mapError .read
  let filter ← (Filter.build whole.schema request.conditions).mapError .filter
  let kept ← (whole.filter filter).mapError .ofFiltering
  match request.window with
  | .all => return kept
  | .head count => (kept.head count).mapError .table
  | .tail count => (kept.tail count).mapError .table

end Request

/-- The names in a list with commas, without the blanks around them, empty ones and repetitions. -/
def columnList (list : List Char) : List String :=
  let names := ((Text.pieces ',' list).map Text.trim).filter fun name => !name.isEmpty
  distinct (names.map String.ofList)

end TableScope
