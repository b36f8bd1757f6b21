/-! # Binary floating-point numbers

The nonnegative numbers of a binary interchange format stand in increasing order, one after the
other: their *places* are the natural numbers `0, 1, …, top`, place `top` being infinity, and the
place of a number is what its exponent and fraction fields spell when read as one number. All of
them are whole multiples of the smallest positive one, so the number at a place is given exactly by
a natural number (`units`).

`nearestPlace` rounds a ratio to the nearest number, a tie going to the even place. It takes the
greatest number not above the ratio and compares the ratio with the middle to the next one; that
infinity stands where the next power of two would makes overflow no special case.
-/
set_option autoImplicit false

namespace TableScope

/-- The sizes of the stored fields of a binary interchange format. -/
structure BinaryFormat where
  fractionBits : Nat
  exponentBits : Nat
deriving DecidableEq, Repr

namespace BinaryFormat

def binary16 : BinaryFormat := ⟨10, 5⟩
def binary32 : BinaryFormat := ⟨23, 8⟩
def binary64 : BinaryFormat := ⟨52, 11⟩

/-- The place of infinity. -/
def top (f : BinaryFormat) : Nat := (Nat.pow 2 f.exponentBits - 1) * Nat.pow 2 f.fractionBits

/-- The smallest positive number is `2 ^ (-scale)`. -/
def scale (f : BinaryFormat) : Nat := Nat.pow 2 (f.exponentBits - 1) - 2 + f.fractionBits

/-- The number at a place, counted in smallest positive numbers. -/
def units (f : BinaryFormat) (place : Nat) : Nat :=
  let exponent := place / Nat.pow 2 f.fractionBits
  let fraction := place % Nat.pow 2 f.fractionBits
  if exponent = 0 then fraction
  else (Nat.pow 2 f.fractionBits + fraction) * Nat.pow 2 (exponent - 1)

/-- The greatest place whose number is at most `n` smallest positive numbers. -/
def placeBelow (f : BinaryFormat) (n : Nat) : Nat :=
  let shift := n.log2 - f.fractionBits
  shift * Nat.pow 2 f.fractionBits + n / Nat.pow 2 shift

/-- The place of the number nearest to `num / den`, of two the even one. -/
def nearestPlace (f : BinaryFormat) (num den : Nat) : Nat :=
  let exact := num * Nat.pow 2 f.scale
  let below := f.placeBelow (exact / den)
  let twiceMiddle := f.units below + f.units (below + 1)
  match compare (2 * exact) (twiceMiddle * den) with
  | .lt => min below f.top
  | .gt => min (below + 1) f.top
  | .eq => min (if below % 2 = 0 then below else below + 1) f.top

theorem nearestPlace_le_top (f : BinaryFormat) (num den : Nat) :
    f.nearestPlace num den ≤ f.top := by
  unfold nearestPlace
  dsimp only
  split <;> exact Nat.min_le_right _ _

end BinaryFormat

/-- A floating-point number of a format: not a number, or a sign and a place. -/
inductive Binary (f : BinaryFormat)
  | nan
  | number (negative : Bool) (place : Fin (f.top + 1))
deriving DecidableEq, Repr

abbrev Binary16 := Binary .binary16
abbrev Binary32 := Binary .binary32
abbrev Binary64 := Binary .binary64

namespace Binary

variable {f : BinaryFormat}

/-- The number that is nearest to `± num / den`. -/
def ofRatio (negative : Bool) (num den : Nat) : Binary f :=
  .number negative ⟨f.nearestPlace num den, Nat.lt_succ_of_le (f.nearestPlace_le_top num den)⟩

def ofInt (i : Int) : Binary f := ofRatio (decide (i < 0)) i.natAbs 1

def infinity (negative : Bool) : Binary f := .number negative ⟨f.top, Nat.lt_succ_self _⟩

/-- The number of another format that is nearest to this one. -/
def round (g : BinaryFormat) : Binary f → Binary g
  | .nan => .nan
  | .number negative place =>
    if place.val = f.top then infinity negative
    else ofRatio negative (f.units place) (Nat.pow 2 f.scale)

/-! ## Stored words -/

/-- Reads a word: sign, exponent and fraction from the highest bit down. -/
def ofWord (word : Nat) : Binary f :=
  let sign := Nat.pow 2 (f.exponentBits + f.fractionBits)
  if h : word % sign < f.top + 1 then .number (word / sign % 2 == 1) ⟨_, h⟩ else .nan

/-- Writes the word of a number; the fraction of "not a number" is its highest bit alone. -/
def toWord : Binary f → Nat
  | .nan => f.top + Nat.pow 2 (f.fractionBits - 1)
  | .number negative place =>
    (if negative then Nat.pow 2 (f.exponentBits + f.fractionBits) else 0) + place

/-! ## Order -/

/-- Where a number stands among all of its format: the two zeros at 0, the negative numbers below,
and "not a number" above everything. -/
def rank : Binary f → Int
  | .nan => f.top + 1
  | .number negative place => if negative then -(place.val : Int) else place.val

/-- The order by value, in which "not a number" equals itself and is above everything. -/
def compare (x y : Binary f) : Ordering := Ord.compare x.rank y.rank

end Binary

end TableScope
