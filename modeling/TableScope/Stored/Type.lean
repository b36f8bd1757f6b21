import TableScope.Calendar.Time
import TableScope.Table.Cell

/-! # Types of stored columns

A column of a file has a stored type that is finer than the type its table column declares: numbers
have a width, texts and bytes an encoding, dates and times a unit, and there are lists and
structures. `StoredType.Value` is the type of a value that is not null.
-/
set_option autoImplicit false

namespace TableScope

mutual

/-- The type of the values in a column of a file. -/
inductive StoredType
  | null
  | boolean
  | int8
  | int16
  | int32
  | int64
  | uint8
  | uint16
  | uint32
  | uint64
  | float16
  | float32
  | float64
  | utf8
  | largeUtf8
  | utf8View
  | binary
  | largeBinary
  | binaryView
  | fixedBinary (size : Nat)
  /-- Days. -/
  | date32
  /-- Milliseconds. -/
  | date64
  | time (unit : TimeUnit)
  | timestamp (unit : TimeUnit) (zone : Option String)
  | duration (unit : TimeUnit)
  | yearMonthInterval
  | dayTimeInterval
  | monthDayNanoInterval
  | decimal128 (precision : Nat) (scale : Int)
  | decimal256 (precision : Nat) (scale : Int)
  /-- Values that are stored once and referred to by number. -/
  | dictionary (values : StoredType)
  | list (items : StoredType)
  | largeList (items : StoredType)
  | fixedList (items : StoredType) (size : Nat)
  | struct (fields : StoredFields)

/-- The names and types of the fields of a structure. -/
inductive StoredFields
  | nil
  | cons (name : String) (type : StoredType) (others : StoredFields)

end

mutual

/-- The values of a stored type, nulls left out. Durations and intervals of months, days and
nanoseconds have a declared type, but no file holds values of them. -/
def StoredType.Value : StoredType → Type
  | .null => Empty
  | .boolean => Bool
  | .int8 => Int8
  | .int16 => Int16
  | .int32 => Int32
  | .int64 => Int64
  | .uint8 => UInt8
  | .uint16 => UInt16
  | .uint32 => UInt32
  | .uint64 => UInt64
  | .float16 => Binary16
  | .float32 => Binary32
  | .float64 => Binary64
  | .utf8 | .largeUtf8 | .utf8View => String
  | .binary | .largeBinary | .binaryView | .fixedBinary _ => List UInt8
  | .date32 => Int32
  | .date64 => Int64
  | .time .second | .time .millisecond => Int32
  | .time .microsecond | .time .nanosecond => Int64
  | .timestamp _ _ => Int64
  | .duration _ => Empty
  | .yearMonthInterval => Int32
  | .dayTimeInterval => Int32 × Int32
  | .monthDayNanoInterval => Empty
  | .decimal128 _ _ | .decimal256 _ _ => Int
  | .dictionary values => values.Value
  | .list items | .largeList items | .fixedList items _ => List (Option items.Value)
  | .struct fields => fields.Values

def StoredFields.Values : StoredFields → Type
  | .nil => Unit
  | .cons _ type others => Option type.Value × others.Values

end

namespace StoredType

/-- The type that a table column declares for a stored type. -/
def columnType : StoredType → ColumnType
  | null => .null
  | boolean => .boolean
  | int8 | int16 | int32 | int64 | uint8 | uint16 | uint32 => .int64
  | uint64 => .uint64
  | float16 | float32 | float64 => .float64
  | utf8 | largeUtf8 | utf8View => .string
  | date32 | date64 | time _ | timestamp _ _ | duration _ => .temporal
  | yearMonthInterval | dayTimeInterval | monthDayNanoInterval => .temporal
  | dictionary values => values.columnType
  | binary | largeBinary | binaryView | fixedBinary _ | decimal128 _ _ | decimal256 _ _ => .other
  | list _ | largeList _ | fixedList _ _ | struct _ => .other

end StoredType

end TableScope
