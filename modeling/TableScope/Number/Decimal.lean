import TableScope.Number.Binary

/-! # Decimals and the shortest one that reads back

A `Decimal` is `coefficient · 10 ^ exponent`. `Decimal.place` reads it as a number of a binary
format, correctly rounded for any number of digits and any exponent. `shortest` goes the other way:
among the decimals that read back as the number at a place it takes one on the coarsest grid of
multiples of a power of ten that has any, hence with the fewest digits, and of two on that grid the
nearer one.
-/
set_option autoImplicit false

namespace TableScope

/-- The nonnegative number `coefficient · 10 ^ exponent`. -/
structure Decimal where
  coefficient : Nat
  exponent : Int
deriving DecidableEq, Repr

/-- Which of two equally near shortest decimals is written. -/
inductive Tie
  | up
  | even
deriving DecidableEq, Repr

namespace Decimal

/-- Decimal digits of the coefficient, the highest first. -/
def digits (d : Decimal) : List Char := Nat.toDigits 10 d.coefficient

/-- No number of the format has more than this many decimal digits before the point or zeros after
it. -/
def reach (f : BinaryFormat) : Nat := Nat.pow 2 f.exponentBits + f.fractionBits

/-- The place of the number that is nearest to a decimal. Far outside the format's range no power of
ten is needed to tell. -/
def place (f : BinaryFormat) (d : Decimal) : Nat :=
  let magnitude := d.digits.length + d.exponent
  if d.coefficient = 0 then 0
  else if magnitude > reach f then f.top
  else if magnitude < -(reach f : Int) then 0
  else f.nearestPlace (d.coefficient * Nat.pow 10 d.exponent.toNat) (Nat.pow 10 (-d.exponent).toNat)

theorem place_le_top (f : BinaryFormat) (d : Decimal) : d.place f ≤ f.top := by
  unfold place
  dsimp only
  split
  · exact Nat.zero_le _
  · split
    · exact Nat.le_refl _
    · split
      · exact Nat.zero_le _
      · exact f.nearestPlace_le_top _ _

def toBinary (f : BinaryFormat) (negative : Bool) (d : Decimal) : Binary f :=
  .number negative ⟨d.place f, Nat.lt_succ_of_le (d.place_le_top f)⟩

/-! ## Shortest digits -/

/-- Whether a value that is `rest / step` of the way from `below` to the next point of a grid is
written as that point rather than as `below`. -/
def roundsUp (tie : Tie) (below rest step : Nat) : Bool :=
  match Ord.compare (2 * rest) step with
  | .lt => false
  | .gt => true
  | .eq => tie == .up || below % 2 == 1

/-- The decimal on the grid of multiples of `10 ^ exponent` that reads back as the number at a
place: of the two neighbours of that number the nearer one that does. -/
def onGrid? (f : BinaryFormat) (tie : Tie) (place : Nat) (exponent : Int) : Option Decimal :=
  let value := f.units place * Nat.pow 10 (-exponent).toNat
  let step := Nat.pow 2 f.scale * Nat.pow 10 exponent.toNat
  let up := roundsUp tie (value / step) (value % step) step
  let below : Decimal := ⟨value / step, exponent⟩
  let above : Decimal := ⟨value / step + 1, exponent⟩
  let nearer := if up then above else below
  let farther := if up then below else above
  if nearer.place f = place then some nearer
  else if farther.place f = place then some farther
  else none

/-- The first grid, from `10 ^ (steps - scale)` down, that has a decimal; the last grid holds the
number itself. -/
def shortestFrom (f : BinaryFormat) (tie : Tie) (place : Nat) : Nat → Decimal
  | 0 => ⟨f.units place * Nat.pow 5 f.scale, -f.scale⟩
  | steps + 1 =>
    match onGrid? f tie place (steps + 1 - f.scale : Int) with
    | some d => d
    | none => shortestFrom f tie place steps

/-- A number of grids to try such that the coarsest step is above the number at the place. -/
def gridCount (f : BinaryFormat) (place : Nat) : Nat :=
  let bits : Int := (f.units place).log2 + 2 - f.scale
  let exponent : Int := if bits < 0 then -(-bits * 3 / 10) else bits / 3 + 1
  (exponent + 1 + f.scale).toNat

/-- The shortest decimal that reads back as the number at a place. -/
def shortest (f : BinaryFormat) (tie : Tie) (place : Nat) : Decimal :=
  if place = 0 then ⟨0, 0⟩ else shortestFrom f tie place (gridCount f place)

end Decimal

end TableScope
