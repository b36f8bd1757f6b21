import TableScope.Cursor.Basic

/-! # Operations on tables

Columns are selected by name, rows by a filter or by their number from either end. Each operation
runs a cursor over the table.
-/
set_option autoImplicit false

namespace TableScope.Table

def select (table : Table) (names : List String) : Except TableError Table := do
  let positions ← table.schema.positions names
  ((Cursor.scan table).project positions).collect

/-- The rows that satisfy a filter. Without predicates the table is returned as it is. -/
def filter (table : Table) (filter : Filter) : Except TableError Table :=
  if filter.isEmpty then .ok table else ((Cursor.scan table).filter filter).collect

def head (table : Table) (count : Nat) : Except TableError Table :=
  ((Cursor.scan table).limit count).collect

def tail (table : Table) (count : Nat) : Except TableError Table :=
  ((Cursor.scan table).limit count (table.rows.length - count)).collect

end TableScope.Table
