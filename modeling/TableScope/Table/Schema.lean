import TableScope.Table.Cell

/-! # Schemas and rows

A schema is the list of a table's columns. Names may repeat; a name stands for the first column that
has it. A row holds one cell per column, by position.
-/
set_option autoImplicit false

namespace TableScope

structure Column where
  name : String
  type : ColumnType
deriving DecidableEq, Repr

/-- The name and the type as they are listed. -/
def Column.description (column : Column) : String := column.name ++ ": " ++ column.type.label

abbrev Schema := List Column

abbrev Row := List Cell

namespace Schema

def names (schema : Schema) : List String := schema.map Column.name

/-- The position of the first column of a name. -/
def position? (schema : Schema) (name : String) : Option Nat :=
  schema.findIdx? fun column => column.name == name

def hasColumn (schema : Schema) (name : String) : Bool := (schema.position? name).isSome

def type? (schema : Schema) (position : Nat) : Option ColumnType :=
  schema[position]?.map Column.type

/-- Each cell of the row conforms to the column at its position, and there are as many of both. -/
def Fits (schema : Schema) (row : Row) : Prop :=
  row.length = schema.length ∧
    ∀ cell column, (cell, column) ∈ row.zip schema → cell.Conforms column.type

end Schema

end TableScope
