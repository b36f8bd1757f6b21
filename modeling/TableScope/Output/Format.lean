import TableScope.Output.Csv
import TableScope.Output.Grid
import TableScope.Output.Json

/-! # Output formats -/
set_option autoImplicit false

namespace TableScope

inductive OutputFormat
  | grid
  | csv
  | json
deriving DecidableEq, Repr

def Table.render (table : Table) : OutputFormat → List Char
  | .grid => Grid.render table
  | .csv => Csv.render table
  | .json => (Json.ofTable table).render

end TableScope
