import TableScope.Filter.Error

/-! # Conditions

A condition is written as a column, an operator and a literal. The operators are searched for in the
order of `Operator.all`, and the first one that stands anywhere in the text cuts it at its first
occurrence.
-/
set_option autoImplicit false

namespace TableScope

/-- The parts of a condition. The literal is still as it was written, quotes included. -/
structure Condition where
  column : String
  operator : Operator
  literal : String
deriving DecidableEq, Repr

namespace Condition

/-- Cuts a text at the first of the operators that it holds. -/
def cut? (text : List Char) : List Operator → Option (List Char × Operator × List Char)
  | [] => none
  | operator :: others =>
    match Text.split? operator.spelling.toList text with
    | some (before, after) => some (before, operator, after)
    | none => cut? text others

/-- Reads a condition; blanks around the column and the literal are not part of them. -/
def parse (text : String) : Except FilterError Condition :=
  match cut? text.toList Operator.all with
  | some (before, operator, after) =>
    .ok ⟨String.ofList (Text.trim before), operator, String.ofList (Text.trim after)⟩
  | none => .error (.invalidCondition text)

end Condition

end TableScope
