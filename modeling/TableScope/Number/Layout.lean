import TableScope.Number.Decimal

/-! # Layouts of floating-point text

A `Layout` says how the shortest digits of a number are set: for which orders of magnitude
positionally, when an integral number keeps a zero after the point, and how an exponent is signed.
The order of magnitude of a number `x` is the `e` with `10 ^ e ≤ |x| < 10 ^ (e + 1)`, and that of
zero is 0.
-/
set_option autoImplicit false

namespace TableScope

structure Layout where
  /-- The orders of magnitude that are written positionally. -/
  positional : Int → Bool
  /-- The orders of magnitude at which an integral number is written with `.0`. -/
  pointZero : Int → Bool
  /-- Whether a positive exponent has a sign. -/
  signedExponent : Bool
  tie : Tie

def Nat.text (n : Nat) : List Char := Nat.toDigits 10 n

/-- An integer in decimal digits, with a sign if it is negative. -/
def Int.text (i : Int) : List Char := if i < 0 then '-' :: Nat.text i.natAbs else Nat.text i.natAbs

namespace Layout

/-- Digits with the point at its place, zeros filled in on either side. -/
def setPositional (digits : List Char) (exponent : Int) (pointZero : Bool) : List Char :=
  if 0 ≤ exponent then
    digits ++ List.replicate exponent.toNat '0' ++ (if pointZero then ['.', '0'] else [])
  else
    let places := (-exponent).toNat
    if places < digits.length then
      digits.take (digits.length - places) ++ '.' :: digits.drop (digits.length - places)
    else '0' :: '.' :: (List.replicate (places - digits.length) '0' ++ digits)

/-- Digits with the point after the first, and a power of ten. -/
def setScientific (digits : List Char) (magnitude : Int) (signed : Bool) : List Char :=
  let fraction := digits.drop 1
  digits.take 1 ++ (if fraction.isEmpty then [] else '.' :: fraction) ++ 'e' ::
    ((if signed && 0 ≤ magnitude then ['+'] else []) ++ Int.text magnitude)

/-- The text of a nonnegative decimal. -/
def set (layout : Layout) (d : Decimal) : List Char :=
  let magnitude := d.digits.length - 1 + d.exponent
  if layout.positional magnitude then
    setPositional d.digits d.exponent (layout.pointZero magnitude)
  else setScientific d.digits magnitude layout.signedExponent

/-- The text of a number: its shortest digits in the layout, `NaN` or `inf`. -/
def text {f : BinaryFormat} (layout : Layout) : Binary f → List Char
  | .nan => ['N', 'a', 'N']
  | .number negative place =>
    (if negative then ['-'] else []) ++
      if place.val = f.top then ['i', 'n', 'f']
      else layout.set (Decimal.shortest f layout.tie place)

end Layout

end TableScope
