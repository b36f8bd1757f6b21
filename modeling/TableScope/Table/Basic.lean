import TableScope.Filter.Predicate

/-! # Tables

A table is a schema and rows that have one cell per column. Names are resolved to positions first
(`Schema.positions`), and rows are then rearranged by position (`Row.project`).
-/
set_option autoImplicit false

namespace TableScope

/-- What can be wrong with a table, its columns or the way its rows are taken. -/
inductive TableError
  /-- A row has more or fewer cells than the schema has columns. -/
  | raggedRow (row width columns : Nat)
  | unknownColumn (name : String)
  /-- A row is asked for a cell that it does not have. -/
  | noCell (position width : Nat)
  /-- A schema is asked for a column that it does not have. -/
  | noColumn (position width : Nat)
  /-- A cursor is asked for a row before it was started. -/
  | notStarted
  | evaluation (error : EvaluationError)
deriving DecidableEq

def TableError.message : TableError → String
  | raggedRow row width columns =>
    "Row " ++ toString row ++ " has " ++ toString width ++ " values but the schema has " ++
      toString columns ++
      " columns"
  | unknownColumn name => "Column '" ++ name ++ "' not found in schema"
  | noCell position width =>
    "Column index " ++ toString position ++ " out of bounds for row with " ++
      toString width ++ " columns"
  | noColumn position width =>
    "Column index " ++ toString position ++ " is out of bounds for schema with " ++
      toString width ++ " columns"
  | notStarted => "Executor not initialized. Call init() first."
  | evaluation error => error.message

/-- The positions of the named columns, up to the first name that no column has. -/
def Schema.positions (schema : Schema) : List String → Except TableError (List Nat)
  | [] => .ok []
  | name :: others =>
    match schema.position? name with
    | some position => do return position :: (← schema.positions others)
    | none => .error (.unknownColumn name)

/-- The columns at some positions, up to the first position that has none. -/
def Schema.project (schema : Schema) : List Nat → Except TableError Schema
  | [] => .ok []
  | position :: others =>
    match schema[position]? with
    | some column => do return column :: (← schema.project others)
    | none => .error (.noColumn position schema.length)

/-- The cells at some positions, up to the first position that has none. -/
def Row.project (row : Row) : List Nat → Except TableError Row
  | [] => .ok []
  | position :: others =>
    match row[position]? with
    | some cell => do return cell :: (← Row.project row others)
    | none => .error (.noCell position row.length)

structure Table where
  schema : Schema
  rows : List Row
  rectangular : ∀ row ∈ rows, row.length = schema.length

namespace Table

/-- A table of rows that all have to be as wide as the schema. -/
def ofRows (schema : Schema) (rows : List Row) : Except TableError Table :=
  match h : rows.findIdx? fun row => row.length != schema.length with
  | none => .ok ⟨schema, rows, fun row hr => by
      simpa using List.findIdx?_eq_none_iff.mp h row hr⟩
  | some position =>
    .error (.raggedRow position ((rows[position]?.map List.length).getD 0) schema.length)

theorem ofRows_of_rectangular (schema : Schema) (rows : List Row)
    (h : ∀ row ∈ rows, row.length = schema.length) :
    ofRows schema rows = .ok ⟨schema, rows, h⟩ := by
  have hn : (rows.findIdx? fun row => row.length != schema.length) = none :=
    List.findIdx?_eq_none_iff.mpr fun row hr => by simp [h row hr]
  unfold ofRows
  split
  · rfl
  · next position hp => rw [hn] at hp; cases hp

end Table

end TableScope
