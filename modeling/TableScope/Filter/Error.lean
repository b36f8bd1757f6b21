import TableScope.Filter.Literal
import TableScope.Filter.Operator

/-! # What can be wrong with a filter

A condition may be no condition or name an unknown column, which shows when the filter is built, and
a predicate may not apply to the column it is bound to.
-/
set_option autoImplicit false

namespace TableScope

/-- Why a predicate does not apply. -/
inductive EvaluationError
  /-- The literal cannot be compared with, or looked for in, a value of the type. -/
  | typeMismatch (column : String) (operator : Operator) (type : ColumnType) (literal : Literal)
  /-- There is no cell, or no column, at the predicate's position. -/
  | positionOutOfBounds (position width : Nat)
deriving DecidableEq

def EvaluationError.message : EvaluationError → String
  | typeMismatch column operator type literal =>
    "cannot apply '" ++ operator.spelling ++ "' to column '" ++ column ++
      "' of type " ++ type.label ++
      " with literal " ++ String.ofList literal.description
  | positionOutOfBounds position width =>
    "Column index " ++ toString position ++ " out of bounds for row with " ++
      toString width ++ " columns"

/-- Why a filter cannot be built or applied. -/
inductive FilterError
  | invalidCondition (text : String)
  | unknownColumn (name : String)
  | evaluation (error : EvaluationError)
deriving DecidableEq

def FilterError.message : FilterError → String
  | invalidCondition text => "Invalid filter condition: " ++ text
  | unknownColumn name => "Column '" ++ name ++ "' not found in dataframe"
  | evaluation error => error.message

end TableScope
