import TableScope.Number.Decimal

/-! # Reading numerals

An integer numeral is an optional sign and decimal digits. A decimal numeral has digits with an
optional point, at least one digit on some side of it, and an optional exponent. Only ASCII digits
count, and the whole text is the numeral: no blanks, no separators.
-/
set_option autoImplicit false

namespace TableScope.Numeral

/-- A nonempty text of decimal digits, read as a number. -/
def digits? (s : List Char) : Option Nat :=
  if !s.isEmpty && s.all Char.isDigit then some (Nat.ofDigitChars 10 s 0) else none

/-- A sign at the start of a text, true for minus, and the rest. -/
def signed : List Char → Bool × List Char
  | '-' :: r => (true, r)
  | '+' :: r => (false, r)
  | s => (false, s)

def integer? (s : List Char) : Option Int :=
  let (negative, r) := signed s
  (digits? r).map fun n => if negative then -(n : Int) else n

/-- A numeral of a natural number, which may have a plus sign. -/
def natural? : List Char → Option Nat
  | '+' :: r => digits? r
  | s => digits? s

/-- The exponent at the end of a decimal numeral; none written is 0. -/
def exponent? : List Char → Option Int
  | [] => some 0
  | c :: r => if c == 'e' || c == 'E' then integer? r else none

def unsigned? (s : List Char) : Option Decimal :=
  let (whole, r) := s.span Char.isDigit
  let (fraction, r) := match r with
    | '.' :: r => r.span Char.isDigit
    | r => ([], r)
  (digits? (whole ++ fraction)).bind fun n =>
    (exponent? r).map fun e => ⟨n, e - fraction.length⟩

/-- A decimal numeral: whether it is negative, and its magnitude. -/
def decimal? (s : List Char) : Option (Bool × Decimal) :=
  let (negative, r) := signed s
  (unsigned? r).map fun d => (negative, d)

end TableScope.Numeral
