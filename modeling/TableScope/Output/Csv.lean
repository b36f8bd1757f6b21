import TableScope.Table.Basic

/-! # Comma-separated values

One record for the names of the columns and one for each row, each ended by a line feed. A null is
an empty field. A field that holds a comma, a quote or a line break stands between quotes, and
quotes inside it are doubled.
-/
set_option autoImplicit false

namespace TableScope.Csv

/-- The characters that a field cannot hold outside quotes. -/
def isSpecial (c : Char) : Bool := c == ',' || c == '"' || c == '\r' || c == '\n'

def doubleQuotes (s : List Char) : List Char :=
  s.flatMap fun c => if c = '"' then ['"', '"'] else [c]

def field (s : List Char) : List Char :=
  if s.any isSpecial then '"' :: (doubleQuotes s ++ ['"']) else s

def record (fields : List (List Char)) : List Char := [','].intercalate (fields.map field) ++ ['\n']

def ofCell : Cell → List Char
  | .null => []
  | cell => cell.text

def render (table : Table) : List Char :=
  record (table.schema.map fun column => column.name.toList) ++
    table.rows.flatMap fun row => record (row.map ofCell)

end TableScope.Csv
