import TableScope.Number.Layout

/-! # Dates

A day is counted from 1 January 1970, and a `Date` is its year, month and day of the month in the
Gregorian calendar, which is taken to go on without end in both directions. The days are laid out in
cycles of 400 years that start on 1 March, so that the leap day is the last day of its year.
-/
set_option autoImplicit false

namespace TableScope

/-- A number in at least `width` digits, with zeros in front. -/
def Nat.padded (width n : Nat) : List Char :=
  let digits := Nat.text n
  List.replicate (width - digits.length) '0' ++ digits

structure Date where
  year : Int
  month : Nat
  day : Nat
deriving DecidableEq, Repr

namespace Date

/-- The days of 400 years. -/
def cycleDays : Nat := 146097

/-- The days from 1 March of the year 0 to 1 January 1970. -/
def epochOffset : Int := 719468

/-- The year within a cycle that a day of the cycle belongs to, years starting in March. -/
def yearOfCycle (day : Nat) : Nat := (day - day / 1460 + day / 36524 - day / 146096) / 365

/-- The first day of a year within a cycle. -/
def yearStart (year : Nat) : Nat := 365 * year + year / 4 - year / 100

/-- The month of a day of the year, March being 0. -/
def monthOfYear (day : Nat) : Nat := (5 * day + 2) / 153

/-- The first day of a month, March being 0. -/
def monthStart (month : Nat) : Nat := (153 * month + 2) / 5

def ofDays (days : Int) : Date :=
  let shifted := days + epochOffset
  let cycle := shifted / cycleDays
  let dayOfCycle := (shifted % cycleDays).toNat
  let year := yearOfCycle dayOfCycle
  let dayOfYear := dayOfCycle - yearStart year
  let month := monthOfYear dayOfYear
  { year := cycle * 400 + year + (if 10 ≤ month then 1 else 0)
    month := if month < 10 then month + 3 else month - 9
    day := dayOfYear - monthStart month + 1 }

/-- The years that dates are kept for. -/
def minYear : Int := -262143
def maxYear : Int := 262142

/-- The date of a day, if its year is kept. -/
def ofDays? (days : Int) : Option Date :=
  let date := ofDays days
  if minYear ≤ date.year && date.year ≤ maxYear then some date else none

/-- The text of a year: four digits, and outside 0 to 9999 a sign and at least four. -/
def yearText (year : Int) : List Char :=
  if 0 ≤ year && year ≤ 9999 then Nat.padded 4 year.toNat
  else (if year < 0 then '-' else '+') :: Nat.padded 4 year.natAbs

/-- Year, month and day with hyphens between them. -/
def text (date : Date) : List Char :=
  yearText date.year ++ '-' :: (Nat.padded 2 date.month ++ '-' :: Nat.padded 2 date.day)

end Date

end TableScope
