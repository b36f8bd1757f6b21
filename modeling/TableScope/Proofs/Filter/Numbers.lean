import TableScope.Filter.Comparison
import TableScope.Proofs.Number.Order

/-! # The order of numbers of all kinds

Two integers compare as integers, whatever their width and sign. Where a float takes part both numbers
stand on the line of floats, and an integer stands where the nearest float does (`Numeric.Ordered`); up to
`2 ^ 53` that is where it is itself. What comparing gives is this order and no other
(`compare_numbers`).
-/
set_option autoImplicit false

namespace TableScope

/-- A number as it is compared. -/
inductive Numeric
  | integer (i : ℤ)
  | float (x : Binary64)

def Cell.numeric? : Cell → Option Numeric
  | int64 value => some (.integer value.toInt)
  | uint64 value => some (.integer value.toNat)
  | float64 value => some (.float value)
  | _ => none

def Literal.numeric? : Literal → Option Numeric
  | integer value => some (.integer value.toInt)
  | float value => some (.float value)
  | _ => none

namespace Numeric

/-- The order of two numbers. An integer next to a float is rounded to the nearest one. -/
inductive Ordered : Numeric → Numeric → Ordering → Prop
  | integers (i j : ℤ) : Ordered (integer i) (integer j) (compare i j)
  | floats (x y : Binary64) : Ordered (float x) (float y) (compare x.value.onLine y.value.onLine)
  | integerFloat (i : ℤ) (x y : Binary64) (h : x.NearestTo i) :
    Ordered (integer i) (float y) (compare x.value.onLine y.value.onLine)
  | floatInteger (x : Binary64) (j : ℤ) (y : Binary64) (h : y.NearestTo j) :
    Ordered (float x) (integer j) (compare x.value.onLine y.value.onLine)

/-- Where a number is, not rounded. -/
def onLine : Numeric → NumberLine
  | integer i => .ofRat i
  | float x => x.value.onLine

/-- Rounding does not move the number. -/
def Exact : Numeric → Prop
  | integer i => i.natAbs ≤ 2 ^ 53
  | float _ => True

/-- Integers in their order, and all other pairs by the ranks of floats. -/
def order : Numeric → Numeric → Ordering
  | integer i, integer j => compare i j
  | integer i, float y => (Binary.ofInt i).compare y
  | float x, integer j => x.compare (Binary.ofInt j)
  | float x, float y => x.compare y

theorem ordered_iff {m n : Numeric} {order : Ordering} : m.Ordered n order ↔ order = m.order n := by
  have hbits : 1 ≤ BinaryFormat.binary64.exponentBits := by decide
  constructor
  · rintro (⟨i, j⟩ | ⟨x, y⟩ | ⟨i, x, y, h⟩ | ⟨x, j, y, h⟩)
    · rfl
    · exact (Binary.compare_eq hbits x y).symm
    · rw [Numeric.order, ← Binary.nearestTo_iff.mp h, Binary.compare_eq hbits]
    · rw [Numeric.order, ← Binary.nearestTo_iff.mp h, Binary.compare_eq hbits]
  · rintro rfl
    cases m with
    | integer i =>
      cases n with
      | integer j => exact .integers i j
      | float y =>
        rw [Numeric.order, Binary.compare_eq hbits]
        exact .integerFloat i _ y (Binary.nearestTo_iff.mpr rfl)
    | float x =>
      cases n with
      | integer j =>
        rw [Numeric.order, Binary.compare_eq hbits]
        exact .floatInteger x j _ (Binary.nearestTo_iff.mpr rfl)
      | float y =>
        rw [Numeric.order, Binary.compare_eq hbits]
        exact .floats x y

theorem onLine_ofInt {i : ℤ} (h : (integer i).Exact) :
    (Binary.ofInt i : Binary64).value.onLine = .ofRat i := by
  have hrepresentable : BinaryFormat.binary64.Representable i.natAbs :=
    BinaryFormat.representable_of_le h
  have htop := BinaryFormat.magnitude_top (f := .binary64) (by decide)
  refine Binary.onLine_ofInt hrepresentable ?_
  have hle : (i.natAbs : ℚ) ≤ 2 ^ 53 := by exact_mod_cast h
  rw [htop]
  exact hle.trans_lt (pow_lt_pow_right₀ (by decide) (by decide))

/-- Where rounding moves neither number, they are in the order in which they are on the line. -/
theorem order_of_exact {m n : Numeric} (hm : m.Exact) (hn : n.Exact) :
    m.order n = compare m.onLine n.onLine := by
  have hbits : 1 ≤ BinaryFormat.binary64.exponentBits := by decide
  cases m with
  | integer i =>
    cases n with
    | integer j =>
      rw [order, onLine, onLine, ← cmp_eq_compare, ← cmp_eq_compare,
        NumberLine.ofRat_strictMono.cmp_map_eq, Int.cast_strictMono.cmp_map_eq]
    | float y => rw [order, Binary.compare_eq hbits, onLine_ofInt hm]; rfl
  | float x =>
    cases n with
    | integer j => rw [order, Binary.compare_eq hbits, onLine_ofInt hn]; rfl
    | float y => rw [order, Binary.compare_eq hbits]; rfl

end Numeric

variable {cell : Cell} {literal : Literal} {m n : Numeric}

theorem Cell.compare_of_numeric (hc : cell.numeric? = some m) (hl : literal.numeric? = some n) :
    cell.compare literal = .ordered (m.order n) := by
  cases cell with
  | null | boolean | string => cases hc
  | int64 | uint64 | float64 =>
    cases literal with
    | boolean | string => cases hl
    | integer | float => cases hc; cases hl; rfl

/-- A float in a cell is compared with one in a literal, and is not above it. -/
def Binary.AtMost (x y : Binary64) : Prop :=
  (Cell.float64 x).compare (.float y) ∈ [.ordered .lt, .ordered .eq]

instance (x y : Binary64) : Decidable (x.AtMost y) :=
  inferInstanceAs (Decidable (_ ∈ [Comparison.ordered .lt, .ordered .eq]))

theorem Binary.atMost_iff {x y : Binary64} : x.AtMost y ↔ x.value.onLine ≤ y.value.onLine := by
  have hcompare : (Cell.float64 x).compare (.float y) =
      .ordered (Ord.compare x.value.onLine y.value.onLine) :=
    congrArg Comparison.ordered (Binary.compare_eq (by decide) x y)
  rw [AtMost, hcompare, ← compare_le_iff_le]
  cases Ord.compare x.value.onLine y.value.onLine <;> decide

/-- Comparing numbers gives their order: always one, that of `Numeric.Ordered`, which is the order on the
line for integers that rounding does not move and a total order of the floats. -/
theorem compare_numbers :
    (∀ (cell : Cell) (literal : Literal) (m n : Numeric),
      cell.numeric? = some m → literal.numeric? = some n →
      ∃ order, cell.compare literal = .ordered order ∧ ∀ other, m.Ordered n other ↔ other = order) ∧
    (∀ (cell : Cell) (literal : Literal) (m n : Numeric),
      cell.numeric? = some m → literal.numeric? = some n → m.Exact → n.Exact →
      cell.compare literal = .ordered (compare m.onLine n.onLine)) ∧
    (∀ i, ∃! x : Binary64, x.NearestTo i) ∧
    (∀ (value : UInt64) (k : Int64), value.toNat = 2 ^ 64 - 1 ∨ k.toInt < 0 →
      (Cell.uint64 value).compare (.integer k) = .ordered .gt) ∧
    (∀ x : Binary64, x.AtMost x) ∧
    (∀ x y : Binary64, x.AtMost y ∨ y.AtMost x) ∧
    (∀ x y z : Binary64, x.AtMost y → y.AtMost z → x.AtMost z) := by
  refine ⟨?_, ?_, fun i => ?_, ?_, fun x => ?_, fun x y => ?_, fun x y z => ?_⟩
  · exact fun cell literal m n hc hl =>
      ⟨m.order n, Cell.compare_of_numeric hc hl, fun other => Numeric.ordered_iff⟩
  · intro cell literal m n hc hl hm hn
    rw [Cell.compare_of_numeric hc hl, Numeric.order_of_exact hm hn]
  · exact ⟨Binary.ofInt i, Binary.nearestTo_iff.mpr rfl, fun x h => Binary.nearestTo_iff.mp h⟩
  · intro value k h
    have hk := k.toInt_lt
    refine congrArg Comparison.ordered (Int.compare_eq_gt.mpr ?_)
    omega
  · exact Binary.atMost_iff.mpr le_rfl
  · exact (le_total x.value.onLine y.value.onLine).imp Binary.atMost_iff.mpr Binary.atMost_iff.mpr
  · exact fun hxy hyz =>
      Binary.atMost_iff.mpr ((Binary.atMost_iff.mp hxy).trans (Binary.atMost_iff.mp hyz))

/-- An integer that is rounded to the power of two below it, a zero with a sign, the largest integer, and
the ends of the line. -/
theorem compare_numbers_rounded :
    let power : Binary64 := .number false 4845873199050653696
    let zero : Binary64 := .number true 0
    let largest : UInt64 := 18446744073709551615
    ((Cell.int64 9007199254740993).numeric? = some (.integer (2 ^ 53 + 1)) ∧
      (Literal.float power).numeric? = some (.float power) ∧
      (Cell.int64 9007199254740993).compare (.float power) = .ordered .eq ∧
      (Numeric.integer (2 ^ 53 + 1)).Ordered (.float power) .eq) ∧
    ((Cell.float64 zero).numeric? = some (.float zero) ∧
      (Literal.integer 0).numeric? = some (.integer 0) ∧
      (Numeric.float zero).Exact ∧ (Numeric.integer 0).Exact ∧
      (Cell.float64 zero).compare (.integer 0) =
        .ordered (compare (Numeric.float zero).onLine (Numeric.integer 0).onLine)) ∧
    (largest.toNat = 2 ^ 64 - 1 ∧
      (Cell.uint64 largest).compare (.integer 9223372036854775807) = .ordered .gt) ∧
    (Binary.AtMost (.infinity true) zero ∧ Binary.AtMost zero .nan ∧
      Binary.AtMost (.infinity true) .nan) := by
  intro power zero largest
  obtain ⟨ordered, onLine, -, above, -, -, transitive⟩ := compare_numbers
  have hround : (Cell.int64 9007199254740993).compare (.float power) = .ordered .eq := by
    decide +kernel
  obtain ⟨order, hcompare, hunique⟩ :=
    ordered (.int64 9007199254740993) (.float power) (.integer (2 ^ 53 + 1)) (.float power) rfl rfl
  have heq : Ordering.eq = order := Comparison.ordered.inj (hround.symm.trans hcompare)
  have hexact : (Numeric.integer 0).Exact := Nat.zero_le _
  have hzero : Binary.AtMost (.infinity true) zero := by decide +kernel
  have hnan : Binary.AtMost zero .nan := by decide +kernel
  refine ⟨⟨rfl, rfl, hround, (hunique .eq).mpr heq⟩,
    ⟨rfl, rfl, trivial, hexact, onLine _ _ _ _ rfl rfl trivial hexact⟩, ⟨rfl, ?_⟩,
    hzero, hnan, transitive _ _ _ hzero hnan⟩
  exact above largest 9223372036854775807 (.inl rfl)

end TableScope
