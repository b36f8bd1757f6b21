import TableScope.Filter.Literal
import TableScope.Text.Search

/-! # Comparing a cell with a literal

Integers compare exactly, and where a float takes part both numbers are compared as floats, an
integer rounded to the nearest one. Truth values compare with truth values and strings with strings.
Nothing is read from text here.
-/
set_option autoImplicit false

namespace TableScope

/-- What comparing a cell with a literal gives. -/
inductive Comparison
  | ordered (order : Ordering)
  | missing
  /-- The two kinds have no common order. -/
  | incomparable
deriving DecidableEq, Repr

def Cell.compare : Cell → Literal → Comparison
  | .null, _ => .missing
  | .int64 a, .integer b => .ordered (Ord.compare a.toInt b.toInt)
  | .uint64 a, .integer b => .ordered (Ord.compare (a.toNat : Int) b.toInt)
  | .int64 a, .float b => .ordered ((Binary.ofInt a.toInt).compare b)
  | .uint64 a, .float b => .ordered ((Binary.ofInt a.toNat).compare b)
  | .float64 a, .integer b => .ordered (a.compare (Binary.ofInt b.toInt))
  | .float64 a, .float b => .ordered (a.compare b)
  | .boolean a, .boolean b => .ordered (Ord.compare a.toNat b.toNat)
  | .string a, .string b => .ordered (Text.compare a.toList b.toList)
  | _, _ => .incomparable

end TableScope
