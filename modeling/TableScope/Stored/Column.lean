import TableScope.Stored.Display
import TableScope.Table.Schema

/-! # Columns of a file

A stored column becomes a column of cells: a null becomes a null, a value that a cell can hold keeps
its value, and any other becomes its text. A dictionary counts as the type of its values throughout.
A column cannot be shown if a zone in its type is no offset, whatever values it holds.
-/
set_option autoImplicit false

namespace TableScope

namespace StoredType

def cell : (type : StoredType) → type.Value → Cell
  | .boolean, value => .boolean value
  | .int8, value => .int64 (Int8.toInt64 value)
  | .int16, value => .int64 (Int16.toInt64 value)
  | .int32, value => .int64 (Int32.toInt64 value)
  | .int64, value => .int64 value
  | .uint8, value => .int64 (Int64.ofNat (UInt8.toNat value))
  | .uint16, value => .int64 (Int64.ofNat (UInt16.toNat value))
  | .uint32, value => .int64 (Int64.ofNat (UInt32.toNat value))
  | .uint64, value => .uint64 value
  | .float16, value => .float64 (Binary.round .binary64 value)
  | .float32, value => .float64 (Binary.round .binary64 value)
  | .float64, value => .float64 value
  | .utf8, value | .largeUtf8, value | .utf8View, value => .string value
  | .dictionary values, value => values.cell value
  | type, value => .string (String.ofList (type.display value).full)

end StoredType

mutual

/-- The first zone in a type that is neither empty nor an offset. -/
def StoredType.invalidZone? : StoredType → Option String
  | .timestamp _ zone =>
    match StoredType.Zone.of zone with
    | .invalid name => some name
    | .absent | .fixed _ _ => none
  | .dictionary type | .list type | .largeList type | .fixedList type _ => type.invalidZone?
  | .struct fields => fields.invalidZone?
  | _ => none

/-- The first such zone in the types of some fields. -/
def StoredFields.invalidZone? : StoredFields → Option String
  | .nil => none
  | .cons _ type others => type.invalidZone? <|> others.invalidZone?

end

structure StoredColumn where
  name : String
  type : StoredType
  values : List (Option type.Value)

namespace StoredColumn

/-- The name and the declared type of the column in a table. -/
def column (stored : StoredColumn) : Column := ⟨stored.name, stored.type.columnType⟩

def cells (stored : StoredColumn) : List Cell :=
  stored.values.map fun value => value.elim .null stored.type.cell

/-- Some of the values: `count` of them after the first `start`. -/
def slice (stored : StoredColumn) (start count : Nat) : StoredColumn :=
  { stored with values := (stored.values.drop start).take count }

end StoredColumn

end TableScope
