import TableScope.Calendar.Date

/-! # Times of day, instants and offsets

Times and instants are counted in whole units, from a second down to a nanosecond. A fraction of a
second is written in three, six or nine digits, whichever is the least number that tells it exactly,
and not at all if it is zero.
-/
set_option autoImplicit false

namespace TableScope

inductive TimeUnit
  | second
  | millisecond
  | microsecond
  | nanosecond
deriving DecidableEq, Repr

namespace TimeUnit

def perSecond : TimeUnit → Nat
  | second => 1
  | millisecond => 1000
  | microsecond => 1000000
  | nanosecond => 1000000000

def label : TimeUnit → String
  | second => "Second"
  | millisecond => "Millisecond"
  | microsecond => "Microsecond"
  | nanosecond => "Nanosecond"

def nanoseconds (unit : TimeUnit) : Nat := 1000000000 / unit.perSecond

end TimeUnit

def secondsPerDay : Nat := 86400

structure TimeOfDay where
  /-- Seconds since midnight. -/
  seconds : Nat
  nanoseconds : Nat
deriving DecidableEq, Repr

namespace TimeOfDay

/-- A fraction of a second with the point before it. -/
def fractionText (nanoseconds : Nat) : List Char :=
  if nanoseconds = 0 then []
  else if nanoseconds % 1000000 = 0 then '.' :: Nat.padded 3 (nanoseconds / 1000000)
  else if nanoseconds % 1000 = 0 then '.' :: Nat.padded 6 (nanoseconds / 1000)
  else '.' :: Nat.padded 9 nanoseconds

/-- Hours, minutes and seconds with colons between them, and the fraction. -/
def text (time : TimeOfDay) : List Char :=
  Nat.padded 2 (time.seconds / 3600) ++ ':' :: (Nat.padded 2 (time.seconds / 60 % 60) ++ ':' ::
    (Nat.padded 2 (time.seconds % 60) ++ fractionText time.nanoseconds))

/-- The time that is a count of units since midnight. Whole seconds are kept in 32 bits, and there
is no time before midnight or after the last second of the day. -/
def ofCount? (unit : TimeUnit) (count : Int) : Option TimeOfDay :=
  let seconds := (count.tdiv unit.perSecond % (UInt32.size : Int)).toNat
  let fraction := count.tmod unit.perSecond
  if 0 ≤ fraction && seconds < secondsPerDay then
    some ⟨seconds, fraction.toNat * unit.nanoseconds⟩
  else none

end TimeOfDay

structure DateTime where
  date : Date
  time : TimeOfDay
deriving DecidableEq, Repr

namespace DateTime

/-- The date and time that are a number of seconds and nanoseconds after the start of 1970. -/
def ofSeconds (seconds : Int) (nanoseconds : Nat) : DateTime :=
  ⟨Date.ofDays (seconds / secondsPerDay), ⟨(seconds % secondsPerDay).toNat, nanoseconds⟩⟩

/-- The date and time at an offset, in seconds, from a count of units since the start of 1970. There
is none if the year at no offset is not kept. -/
def ofCount? (unit : TimeUnit) (count offset : Int) : Option DateTime :=
  let seconds := count / unit.perSecond
  let nanoseconds := (count % unit.perSecond).toNat * unit.nanoseconds
  (Date.ofDays? (seconds / secondsPerDay)).map fun _ => ofSeconds (seconds + offset) nanoseconds

/-- The date and the time with a `T` between them. -/
def text (instant : DateTime) : List Char := instant.date.text ++ 'T' :: instant.time.text

end DateTime

/-! ## Offsets -/

/-- A difference to universal time, in seconds to the east. -/
structure Offset where
  seconds : Int
deriving DecidableEq, Repr

namespace Offset

/-- The difference that four digits of hours and minutes make, if it is less than a day. -/
def ofDigits? (negative : Bool) (digits : List Char) : Option Offset :=
  match digits.map fun c => (c.isDigit, c.toNat - '0'.toNat) with
  | [(true, a), (true, b), (true, c), (true, d)] =>
    let seconds := (10 * a + b) * 3600 + (10 * c + d) * 60
    if seconds < secondsPerDay then some ⟨if negative then -seconds else seconds⟩ else none
  | _ => none

/-- Reads a sign and hours, with minutes after them or not, and a colon between the two or not. -/
def ofText? : List Char → Option Offset
  | sign :: rest =>
    let digits := match rest with
      | [a, b] => [a, b, '0', '0']
      | [a, b, ':', c, d] => [a, b, c, d]
      | digits => digits
    if sign == '+' then ofDigits? false digits
    else if sign == '-' then ofDigits? true digits
    else none
  | [] => none

/-- A sign, hours and minutes with a colon between them, or `Z` where there is no difference. -/
def text (offset : Offset) : List Char :=
  if offset.seconds = 0 then ['Z']
  else
    let minutes := offset.seconds.natAbs / 60
    (if offset.seconds < 0 then '-' else '+') ::
      (Nat.padded 2 (minutes / 60) ++ ':' :: Nat.padded 2 (minutes % 60))

end Offset

end TableScope
