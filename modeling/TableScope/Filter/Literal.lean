import TableScope.Number.Numeral
import TableScope.Table.Cell
import TableScope.Text.Blank
import TableScope.Text.Quoted

/-! # Literals of conditions

The literal of a condition has the kind that its spelling shows: a truth value, an integer, a
decimal with a point, and a string in all other cases. One pair of quotes around it is not part of
it, and does not make it a string.
-/
set_option autoImplicit false

namespace TableScope

inductive Literal
  | boolean (value : Bool)
  | integer (value : Int64)
  | float (value : Binary64)
  | string (value : String)
deriving DecidableEq

namespace Literal

def isNumeric : Literal → Bool
  | integer _ | float _ => true
  | _ => false

def text : Literal → List Char
  | boolean value => Cell.booleanText value
  | integer value => Int.text value.toInt
  | float value => Cell.floatLayout.text value
  | string value => value.toList

/-- The text that the text tests look for; truth values are capitalised in it. -/
def needle : Literal → List Char
  | boolean true => "True".toList
  | boolean false => "False".toList
  | literal => literal.text

/-- In messages numbers of less than 10^-4 and from 10^16 on have an exponent, and integral ones a
point. -/
def messageLayout : Layout where
  positional := fun magnitude => -4 ≤ magnitude && magnitude < 16
  pointZero := fun _ => true
  signedExponent := false
  tie := .up

/-- How a literal is shown in messages: its kind, and its value in brackets. -/
def description : Literal → List Char
  | boolean value => "Bool(".toList ++ Cell.booleanText value ++ [')']
  | integer value => "Int(".toList ++ Int.text value.toInt ++ [')']
  | float value => "Float(".toList ++ messageLayout.text value ++ [')']
  | string value => "String(".toList ++ Text.quote value.toList ++ [')']

/-! ## Reading a literal -/

/-- Whether a text starts and ends with the quote and these are two characters. -/
def isQuotedBy (quote : Char) (s : List Char) : Bool :=
  2 ≤ s.length && s.head? == some quote && s.getLast? == some quote

/-- The text without one pair of equal quotes around it. -/
def unquote (s : List Char) : List Char :=
  if isQuotedBy '\'' s || isQuotedBy '"' s then (s.drop 1).dropLast else s

/-- Whether two texts are equal up to the case of ASCII letters. -/
def sameWord (s t : List Char) : Bool := s.map Char.toLower == t.map Char.toLower

def int64? (i : Int) : Option Int64 :=
  if Int64.minValue.toInt ≤ i && i ≤ Int64.maxValue.toInt then some (Int64.ofInt i) else none

/-- The number that a text spells: a float if it has a point, else an integer. -/
def number? (s : List Char) : Option Literal :=
  if s.contains '.' then
    (Numeral.decimal? s).map fun (negative, d) => float (d.toBinary .binary64 negative)
  else (Numeral.integer? s).bind int64? |>.map integer

def ofText (raw : List Char) : Literal :=
  let s := unquote raw
  if sameWord s "true".toList then boolean true
  else if sameWord s "false".toList then boolean false
  else (number? (Text.trim s)).getD (string (String.ofList s))

end Literal

end TableScope
