import TableScope.Proofs.Number.Exactness
import TableScope.Proofs.Stored.Loading

/-! # What stored values and cells hold

A stored value has a width, an encoding and perhaps a dictionary, and stands for a truth value, an
integer, a floating-point number or a text (`StoredType.content`); a cell stands for one of these too
(`Cell.content?`). Loading changes the form and keeps the content (`content_cell`), and the form is the
one that the declared type of the column names (`type?_cell`). A dictionary leaves no trace: a column
with it is loaded as the `StoredColumn.plain` column of its values.
-/
set_option autoImplicit false

namespace TableScope

inductive Content
  | truth (value : Bool)
  | integer (value : Int)
  | float (value : FloatValue)
  | text (value : String)
deriving DecidableEq

/-- The kind of the values in a column of the type. Dates, times and all else are texts. -/
def ColumnType.kind : ColumnType → ColumnType
  | temporal | other => string
  | type => type

def Cell.content? : Cell → Option Content
  | .null => none
  | .boolean value => some (.truth value)
  | .int64 value => some (.integer value.toInt)
  | .uint64 value => some (.integer value.toNat)
  | .float64 value => some (.float value.value)
  | .string value => some (.text value)

namespace StoredType

/-- What a stored value stands for. -/
def content : (type : StoredType) → type.Value → Content
  | .boolean, value => .truth value
  | .int8, value => .integer (Int8.toInt value)
  | .int16, value => .integer (Int16.toInt value)
  | .int32, value => .integer (Int32.toInt value)
  | .int64, value => .integer (Int64.toInt value)
  | .uint8, value => .integer (UInt8.toNat value)
  | .uint16, value => .integer (UInt16.toNat value)
  | .uint32, value => .integer (UInt32.toNat value)
  | .uint64, value => .integer (UInt64.toNat value)
  | .float16, value | .float32, value | .float64, value => .float (Binary.value value)
  | .utf8, value | .largeUtf8, value | .utf8View, value => .text value
  | .dictionary values, value => values.content value
  | type, value => .text (String.ofList (type.display value).full)

theorem content_int64_ofNat {n : Nat} (h : n < 2 ^ 63) :
    (Cell.int64 (Int64.ofNat n)).content? = some (.integer n) := by
  rw [Cell.content?, Int64.toInt_ofNat_of_lt h]

theorem content_round {f : BinaryFormat} (h : f.Within .binary64) (value : Binary f) :
    (Cell.float64 (value.round .binary64)).content? = some (.float value.value) := by
  rw [Cell.content?, Binary.value_round h]

/-- The cell of a value holds the content of the value. -/
theorem content_cell : (type : StoredType) → (value : type.Value) →
    (type.cell value).content? = some (type.content value)
  | .null, value => nomatch value
  | .boolean, _ => rfl
  | .int8, value => congrArg (some ∘ Content.integer) (Int8.toInt_toInt64 value)
  | .int16, value => congrArg (some ∘ Content.integer) (Int16.toInt_toInt64 value)
  | .int32, value => congrArg (some ∘ Content.integer) (Int32.toInt_toInt64 value)
  | .int64, _ => rfl
  | .uint8, value => content_int64_ofNat (Nat.lt_trans (UInt8.toNat_lt value) (by decide))
  | .uint16, value => content_int64_ofNat (Nat.lt_trans (UInt16.toNat_lt value) (by decide))
  | .uint32, value => content_int64_ofNat (Nat.lt_trans (UInt32.toNat_lt value) (by decide))
  | .uint64, _ => rfl
  | .float16, value => content_round ⟨by decide, by decide, by decide⟩ value
  | .float32, value => content_round ⟨by decide, by decide, by decide⟩ value
  | .float64, _ => rfl
  | .utf8, _ | .largeUtf8, _ | .utf8View, _ => rfl
  | .binary, _ | .largeBinary, _ | .binaryView, _ | .fixedBinary _, _ => rfl
  | .date32, _ | .date64, _ | .time _, _ | .timestamp _ _, _ | .duration _, _ => rfl
  | .yearMonthInterval, _ | .dayTimeInterval, _ | .monthDayNanoInterval, _ => rfl
  | .decimal128 _ _, _ | .decimal256 _ _, _ => rfl
  | .dictionary values, value => content_cell values value
  | .list _, _ | .largeList _, _ | .fixedList _ _, _ | .struct _, _ => rfl

theorem type?_eq_kind_of_conforms {cell : Cell} {type : ColumnType} (h : cell.Conforms type)
    (hn : cell ≠ .null) : cell.type? = some type.kind := by
  cases h with
  | null => exact absurd rfl hn
  | boolean | int64 | uint64 | float64 => rfl
  | string value type ht => cases type <;> first | rfl | cases ht

theorem cell_ne_null (type : StoredType) (value : type.Value) : type.cell value ≠ .null := by
  intro h
  have hc := type.content_cell value
  rw [h] at hc
  cases hc

theorem type?_cell (type : StoredType) (value : type.Value) :
    (type.cell value).type? = some type.columnType.kind :=
  type?_eq_kind_of_conforms (type.cell_conforms value) (type.cell_ne_null value)

/-- A cell of a value that is not null has a kind, and no kind is that of the null type. -/
theorem columnType_ne_null (type : StoredType) (value : type.Value) : type.columnType ≠ .null := by
  intro h
  have hk := type.type?_cell value
  rw [h] at hk
  cases hc : type.cell value <;> rw [hc] at hk <;> cases hk

/-- What the cell for a stored value is. -/
structure Shown (type : StoredType) (value : Option type.Value) (cell : Cell) : Prop where
  converted : cell = value.elim .null type.cell
  null_iff : type.columnType ≠ .null → (cell = .null ↔ value = none)
  null : type.columnType = .null → cell = .null
  kind : cell ≠ .null → cell.type? = some type.columnType.kind
  content : cell.content? = value.map type.content

theorem shown (type : StoredType) (value : Option type.Value) :
    type.Shown value (value.elim .null type.cell) := by
  cases value with
  | none => exact ⟨rfl, fun _ => ⟨fun _ => rfl, fun _ => rfl⟩, fun _ => rfl, absurd rfl, rfl⟩
  | some value =>
    constructor
    · rfl
    · exact fun _ => ⟨fun h => absurd h (type.cell_ne_null value), nofun⟩
    · exact fun h => absurd h (type.columnType_ne_null value)
    · exact fun _ => type.type?_cell value
    · exact type.content_cell value

end StoredType

/-! ## Dictionaries -/

namespace StoredColumn

/-- A column of a type without the dictionaries around it. -/
def plainOf (name : String) : (type : StoredType) → List (Option type.Value) → StoredColumn
  | .dictionary type, values => plainOf name type values
  | type, values => ⟨name, type, values⟩

def plain (stored : StoredColumn) : StoredColumn := plainOf stored.name stored.type stored.values

/-- Nothing that loading looks at tells a column from another one. -/
structure LoadsAs (stored other : StoredColumn) : Prop where
  column : stored.column = other.column
  cells : stored.cells = other.cells
  invalidZone? : stored.type.invalidZone? = other.type.invalidZone?

theorem loadsAs_plainOf (name : String) (type : StoredType) (values : List (Option type.Value)) :
    (plainOf name type values).LoadsAs ⟨name, type, values⟩ := by
  fun_induction plainOf name type values with
  | case1 type values ih => exact ⟨ih.column, ih.cells, ih.invalidZone?⟩
  | case2 type values => exact ⟨rfl, rfl, rfl⟩

theorem loadsAs_plain (stored : StoredColumn) : stored.plain.LoadsAs stored :=
  loadsAs_plainOf stored.name stored.type stored.values

end StoredColumn

end TableScope
