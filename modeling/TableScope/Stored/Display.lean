import TableScope.Stored.Type

/-! # The text of stored values

Values that have no kind of cell of their own are held as the text defined here. Lists and
structures show the texts of what they hold, a null inside them as an empty text. A time or an
instant may lie outside the range that has a text: then the text breaks off at that value and the
failure is written in its place.
-/
set_option autoImplicit false

namespace TableScope

/-- A value of a type that has no text. -/
structure DisplayFailure where
  value : Int
  /-- What the value stands for. -/
  meaning : String
  type : String
deriving DecidableEq, Repr

namespace DisplayFailure

def message (failure : DisplayFailure) : String :=
  "ERROR: Cast error: Failed to convert " ++ String.ofList (Int.text failure.value) ++
    " to " ++ failure.meaning ++
    " for " ++ failure.type

end DisplayFailure

/-- A text as far as it could be written, and what it breaks off with. -/
structure Display where
  text : List Char
  failure : Option DisplayFailure := none
deriving DecidableEq, Repr

namespace Display

def of (text : List Char) : Display := ⟨text, none⟩

def failed (failure : DisplayFailure) : Display := ⟨[], some failure⟩

/-- One text after the other. Where the first breaks off the second does not follow. -/
def append (first second : Display) : Display :=
  match first.failure with
  | some _ => first
  | none => ⟨first.text ++ second.text, second.failure⟩

instance : Append Display := ⟨append⟩

/-- The text with the failure that it breaks off with. -/
def full (display : Display) : List Char :=
  match display.failure with
  | some failure => display.text ++ failure.message.toList
  | none => display.text

def separated : List Display → Display
  | [] => of []
  | [display] => display
  | display :: others => display ++ of [',', ' '] ++ separated others

end Display

/-! ## Single values -/

namespace StoredType

/-- Numbers inside lists and structures: positional between 10^-5 and 10^16, an exponent without
plus sign elsewhere. -/
def float64Layout : Layout where
  positional := fun magnitude => -5 ≤ magnitude && magnitude < 16
  pointZero := fun _ => true
  signedExponent := false
  tie := .even

/-- Numbers of 32 bits are positional between 10^-6 and 10^13. -/
def float32Layout : Layout where
  positional := fun magnitude => -6 ≤ magnitude && magnitude < 13
  pointZero := fun _ => true
  signedExponent := false
  tie := .even

/-- Numbers of 16 bits are shown as those of 32 bits that they are, always positional and integral
ones without a point. -/
def float16Layout : Layout where
  positional := fun _ => true
  pointZero := fun _ => false
  signedExponent := false
  tie := .up

/-- Bytes in pairs of lower-case hexadecimal digits. -/
def hexText (bytes : List UInt8) : List Char :=
  bytes.flatMap fun byte => [Nat.digitChar (byte.toNat / 16), Nat.digitChar (byte.toNat % 16)]

/-- An unscaled number with `scale` of its digits after the point; a negative scale adds zeros. No
more than `precision` digits are shown where there are digits before the point. -/
def decimalText (precision : Nat) (scale : Int) (unscaled : Int) : List Char :=
  let sign := if unscaled < 0 then ['-'] else []
  let digits := Nat.text unscaled.natAbs
  let shown := digits.take precision
  let places := scale.toNat
  if scale ≤ 0 then sign ++ shown ++ List.replicate (-scale).toNat '0'
  else if places < digits.length then
    let whole := sign ++ shown
    whole.take (whole.length - places) ++ '.' :: whole.drop (whole.length - places)
  else sign ++ '0' :: '.' :: (List.replicate (places - digits.length) '0' ++ digits)

/-- Years, rounded down, and the months that are left. -/
def yearMonthText (months : Int) : List Char :=
  Int.text (months / 12) ++ " years ".toList ++ Int.text (months % 12) ++ " mons".toList

/-- The parts of an interval of days and milliseconds that are not zero. -/
def dayTimeText (days milliseconds : Int) : List Char :=
  let seconds := milliseconds.tdiv 1000
  let minutes := seconds.tdiv 60
  let hours := minutes.tdiv 60
  let fraction := milliseconds.tmod 1000
  let second := seconds.tmod 60
  let minute := minutes.tmod 60
  let part (value : Int) (name : String) :=
    if value = 0 then [] else [Int.text value ++ name.toList]
  let secondPart :=
    if second = 0 && fraction = 0 then []
    else [(if second < 0 || fraction < 0 then ['-'] else []) ++ Nat.text second.natAbs ++
      '.' :: (Nat.padded 3 fraction.natAbs ++ " secs".toList)]
  [' '].intercalate (part days " days" ++ part hours " hours" ++ part minute " mins" ++ secondPart)

/-! ## Dates and times -/

def dateDisplay (days : Int) : Display :=
  match Date.ofDays? days with
  | some date => .of date.text
  | none => .failed ⟨days, "temporal", "Date32"⟩

def dateTimeDisplay (milliseconds : Int) : Display :=
  match DateTime.ofCount? .millisecond milliseconds 0 with
  | some instant => .of instant.text
  | none => .failed ⟨milliseconds, "temporal", "Date64"⟩

/-- The name of a type of times in messages; coarse units are kept in 32 bits. -/
def timeLabel (unit : TimeUnit) : String :=
  (match unit with
    | .second | .millisecond => "Time32("
    | .microsecond | .nanosecond => "Time64(") ++ unit.label ++ ")"

def timeDisplay (unit : TimeUnit) (count : Int) : Display :=
  match TimeOfDay.ofCount? unit count with
  | some clock => .of clock.text
  | none => .failed ⟨count, "temporal", timeLabel unit⟩

/-- What a zone says about the text of an instant: nothing if it is not given or empty, else its
offset, if it is one. -/
inductive Zone
  | absent
  | fixed (name : String) (offset : Offset)
  | invalid (name : String)
deriving DecidableEq, Repr

def Zone.of : Option String → Zone
  | none => .absent
  | some name =>
    if name.isEmpty then .absent
    else match Offset.ofText? name.toList with
      | some offset => .fixed name offset
      | none => .invalid name

/-- The name of a type of instants in messages. -/
def timestampLabel (unit : TimeUnit) (zone : Zone) : String :=
  let zoneLabel := match zone with
    | .absent => "None"
    | .fixed name _ | .invalid name =>
      "Some(" ++ String.ofList ('"' :: (name.toList ++ ['"'])) ++ ")"
  "Timestamp(" ++ unit.label ++ ", " ++ zoneLabel ++ ")"

/-- Instants are shown in local time with the offset after them, and without a zone as they are. -/
def timestampDisplay (unit : TimeUnit) (zone : Zone) (count : Int) : Display :=
  let (offset, suffix) : Int × List Char := match zone with
    | .fixed _ offset => (offset.seconds, offset.text)
    | .absent | .invalid _ => (0, [])
  match DateTime.ofCount? unit count offset with
  | some instant => .of (instant.text ++ suffix)
  | none => .failed ⟨count, "datetime", timestampLabel unit zone⟩

end StoredType

/-! ## All values -/

mutual

def StoredType.display : (type : StoredType) → type.Value → Display
  | .null, value => nomatch value
  | .boolean, value => .of (Cell.booleanText value)
  | .int8, value => .of (Int.text (Int8.toInt value))
  | .int16, value => .of (Int.text (Int16.toInt value))
  | .int32, value => .of (Int.text (Int32.toInt value))
  | .int64, value => .of (Int.text (Int64.toInt value))
  | .uint8, value => .of (Nat.text (UInt8.toNat value))
  | .uint16, value => .of (Nat.text (UInt16.toNat value))
  | .uint32, value => .of (Nat.text (UInt32.toNat value))
  | .uint64, value => .of (Nat.text (UInt64.toNat value))
  | .float16, value => .of (StoredType.float16Layout.text (Binary.round .binary32 value))
  | .float32, value => .of (StoredType.float32Layout.text value)
  | .float64, value => .of (StoredType.float64Layout.text value)
  | .utf8, value | .largeUtf8, value | .utf8View, value => .of (String.toList value)
  | .binary, value | .largeBinary, value | .binaryView, value | .fixedBinary _, value =>
    .of (StoredType.hexText value)
  | .date32, value => StoredType.dateDisplay (Int32.toInt value)
  | .date64, value => StoredType.dateTimeDisplay (Int64.toInt value)
  | .time .second, value => StoredType.timeDisplay .second (Int32.toInt value)
  | .time .millisecond, value => StoredType.timeDisplay .millisecond (Int32.toInt value)
  | .time .microsecond, value => StoredType.timeDisplay .microsecond (Int64.toInt value)
  | .time .nanosecond, value => StoredType.timeDisplay .nanosecond (Int64.toInt value)
  | .timestamp unit zone, value => StoredType.timestampDisplay unit (.of zone) (Int64.toInt value)
  | .duration _, value => nomatch value
  | .yearMonthInterval, value => .of (StoredType.yearMonthText (Int32.toInt value))
  | .dayTimeInterval, (days, milliseconds) =>
    .of (StoredType.dayTimeText (Int32.toInt days) (Int32.toInt milliseconds))
  | .monthDayNanoInterval, value => nomatch value
  | .decimal128 precision scale, value | .decimal256 precision scale, value =>
    .of (StoredType.decimalText precision scale value)
  | .dictionary values, value => values.display value
  | .list items, value | .largeList items, value | .fixedList items _, value =>
    .of ['['] ++
      .separated (List.map (fun item => item.elim (.of []) items.display) value) ++ .of [']']
  | .struct fields, value => .of ['\x7b'] ++ .separated (fields.displays value) ++ .of ['\x7d']

/-- The names and texts of the fields of a structure. -/
def StoredFields.displays : (fields : StoredFields) → fields.Values → List Display
  | .nil, _ => []
  | .cons name type others, (value, values) =>
    (.of (name.toList ++ [':', ' ']) ++ value.elim (.of []) type.display) :: others.displays values

end

end TableScope
