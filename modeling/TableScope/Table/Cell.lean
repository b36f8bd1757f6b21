import TableScope.Number.Layout

/-! # Cells and the types of columns

A column declares one of eight types, and a cell holds a value of one of five kinds or none at all.
Dates, times and everything else that has no kind of its own is held as its text.
-/
set_option autoImplicit false

namespace TableScope

inductive ColumnType
  | null
  | boolean
  /-- Signed integers, and unsigned ones of up to 32 bits. -/
  | int64
  | uint64
  | float64
  | string
  /-- Dates, times, timestamps, durations and intervals, held as their text. -/
  | temporal
  /-- Any other values, held as their text. -/
  | other
deriving DecidableEq, Repr

namespace ColumnType

def all : List ColumnType := [null, boolean, int64, uint64, float64, string, temporal, other]

def label : ColumnType → String
  | null => "null"
  | boolean => "bool"
  | int64 => "i64"
  | uint64 => "u64"
  | float64 => "f64"
  | string => "str"
  | temporal => "temporal"
  | other => "other"

def isNumeric : ColumnType → Bool
  | int64 | uint64 | float64 => true
  | _ => false

/-- Whether the cells of the type hold strings. -/
def isTextual : ColumnType → Bool
  | string | temporal | other => true
  | _ => false

end ColumnType

inductive Cell
  | null
  | boolean (value : Bool)
  | int64 (value : Int64)
  | uint64 (value : UInt64)
  | float64 (value : Binary64)
  | string (value : String)
deriving DecidableEq

namespace Cell

/-- The type of a cell's value; a null has none. -/
def type? : Cell → Option ColumnType
  | null => none
  | boolean _ => some .boolean
  | int64 _ => some .int64
  | uint64 _ => some .uint64
  | float64 _ => some .float64
  | string _ => some .string

/-- Floating-point numbers in cells have no exponent. Below 10^16 an integral one keeps a zero after
the point. -/
def floatLayout : Layout where
  positional := fun _ => true
  pointZero := fun magnitude => magnitude < 16
  signedExponent := false
  tie := .up

def booleanText (value : Bool) : List Char := if value then "true".toList else "false".toList

def text : Cell → List Char
  | null => "null".toList
  | boolean value => booleanText value
  | int64 value => Int.text value.toInt
  | uint64 value => Nat.text value.toNat
  | float64 value => floatLayout.text value
  | string value => value.toList

/-- Whether a cell may stand in a column of the declared type. -/
inductive Conforms : Cell → ColumnType → Prop
  | null (type : ColumnType) : Conforms null type
  | boolean (value : Bool) : Conforms (boolean value) .boolean
  | int64 (value : Int64) : Conforms (int64 value) .int64
  | uint64 (value : UInt64) : Conforms (uint64 value) .uint64
  | float64 (value : Binary64) : Conforms (float64 value) .float64
  | string (value : String) (type : ColumnType) (h : type.isTextual = true) :
    Conforms (string value) type

end Cell

end TableScope
