import TableScope.Table.Basic

/-! # JSON

A table is written as an array with one object per row, on a single line without blanks. The members
of an object are in the order of the columns; where a name repeats there is one member, at the place
of the first column and with the value of the last.
-/
set_option autoImplicit false

namespace TableScope

/-- A JSON value. A number is kept as its numeral, and the members of an object in their order. -/
inductive Json
  | null
  | boolean (value : Bool)
  | number (numeral : List Char)
  | string (value : List Char)
  | array (items : List Json)
  | object (members : List (List Char × Json))

namespace Json

/-! ## Writing values -/

/-- How a character is written in a string. -/
def escape (c : Char) : List Char :=
  if c == '"' then ['\\', '"']
  else if c == '\\' then ['\\', '\\']
  else if c == '\x08' then ['\\', 'b']
  else if c == '\x0c' then ['\\', 'f']
  else if c == '\n' then ['\\', 'n']
  else if c == '\r' then ['\\', 'r']
  else if c == '\t' then ['\\', 't']
  else if c.toNat < 0x20 then
    ['\\', 'u', '0', '0', Nat.digitChar (c.toNat / 16), Nat.digitChar (c.toNat % 16)]
  else [c]

/-- A string between quotes. -/
def quote (s : List Char) : List Char := '"' :: (s.flatMap escape ++ ['"'])

mutual

def render : Json → List Char
  | null => "null".toList
  | boolean value => Cell.booleanText value
  | number numeral => numeral
  | string value => quote value
  | array items => '[' :: (renderItems items ++ [']'])
  | object members => '\x7b' :: (renderMembers members ++ ['\x7d'])

/-- The text of some items, with commas between them. -/
def renderItems : List Json → List Char
  | [] => []
  | [item] => render item
  | item :: others => render item ++ ',' :: renderItems others

/-- The text of some members, with commas between them. -/
def renderMembers : List (List Char × Json) → List Char
  | [] => []
  | [(name, value)] => quote name ++ ':' :: render value
  | (name, value) :: others => quote name ++ ':' :: (render value ++ ',' :: renderMembers others)

end

/-! ## The value of a table -/

/-- From 10^16 on and below 10^-5 numbers have an exponent, which always has a sign; all others have
a point. -/
def numberLayout : Layout where
  positional := fun magnitude => -5 ≤ magnitude && magnitude < 16
  pointZero := fun _ => true
  signedExponent := true
  tie := .even

/-- A finite number; what is none becomes null. -/
def ofBinary : Binary64 → Json
  | .nan => null
  | .number negative place =>
    if place.val = BinaryFormat.binary64.top then null
    else number (numberLayout.text (.number negative place))

def ofCell : Cell → Json
  | .null => null
  | .boolean value => boolean value
  | .int64 value => number (Int.text value.toInt)
  | .uint64 value => number (Nat.text value.toNat)
  | .float64 value => ofBinary value
  | .string value => string value.toList

/-- Gives a member a value: in its place if there is one of the name, at the end if not. -/
def insert (name : List Char) (value : Json) : List (List Char × Json) → List (List Char × Json)
  | [] => [(name, value)]
  | member :: others =>
    if member.1 = name then (name, value) :: others else member :: insert name value others

def members (schema : Schema) (row : Row) : List (List Char × Json) :=
  (schema.zip row).foldl
    (fun members entry => insert entry.1.name.toList (ofCell entry.2) members) []

def ofTable (table : Table) : Json :=
  array (table.rows.map fun row => object (members table.schema row))

end Json

end TableScope
