import TableScope.Filter.Comparison
import TableScope.Filter.Condition
import TableScope.Table.Schema

/-! # Predicates and filters

A predicate is a condition bound to a column of a schema. It can be checked against the declared
type of a column before any row is read (`checkType`), and evaluated on a row (`evaluate`); a null
never satisfies it. A filter is a list of predicates that all have to hold.
-/
set_option autoImplicit false

namespace TableScope

structure Predicate where
  column : String
  position : Nat
  operator : Operator
  literal : Literal
deriving DecidableEq

namespace Predicate

def description (p : Predicate) : String :=
  p.column ++ " " ++ p.operator.spelling ++ " " ++ String.ofList p.literal.description

/-- Binds a condition to the first column of its name. -/
def bind (schema : Schema) (condition : Condition) : Except FilterError Predicate :=
  match schema.position? condition.column with
  | some position =>
    .ok ⟨condition.column, position, condition.operator, Literal.ofText condition.literal.toList⟩
  | none => .error (.unknownColumn condition.column)

def mismatch (p : Predicate) (type : ColumnType) : EvaluationError :=
  .typeMismatch p.column p.operator type p.literal

/-- Whether a cell satisfies the predicate, or the mismatch. -/
def test (p : Predicate) (cell : Cell) : Except EvaluationError Bool :=
  match p.operator, cell with
  | .textTest _, .null => .ok false
  | .textTest test, .string s => .ok (test.holds s.toList p.literal.needle)
  | .textTest _, cell => .error (p.mismatch (cell.type?.getD .null))
  | .relation relation, cell =>
    match cell.compare p.literal with
    | .ordered order => .ok (relation.holds order)
    | .missing => .ok false
    | .incomparable => .error (p.mismatch (cell.type?.getD .null))

def evaluate (p : Predicate) (row : Row) : Except EvaluationError Bool :=
  match row[p.position]? with
  | some cell => p.test cell
  | none => .error (.positionOutOfBounds p.position row.length)

/-- Whether the predicate applies to columns of a type: a text test needs strings, and a relation a
literal that compares with the values of the type. A column without values accepts everything. -/
def accepts (p : Predicate) (type : ColumnType) : Bool :=
  match p.operator, type, p.literal with
  | _, .null, _ => true
  | .textTest _, .string, _ => true
  | .textTest _, _, _ => false
  | .relation _, .boolean, .boolean _ => true
  | .relation _, type, .string _ => type.isTextual
  | .relation _, type, literal => type.isNumeric && literal.isNumeric

def checkType (p : Predicate) (type : ColumnType) : Except EvaluationError Unit :=
  if p.accepts type then .ok () else .error (p.mismatch type)

/-- Checks the predicate against the schema that rows come with. -/
def checkSchema (p : Predicate) (schema : Schema) : Except EvaluationError Unit :=
  match schema.type? p.position with
  | some type => p.checkType type
  | none => .error (.positionOutOfBounds p.position schema.length)

end Predicate

/-! ## Filters -/

/-- A conjunction of predicates, in the order of their conditions. -/
abbrev Filter := List Predicate

namespace Filter

def predicate (schema : Schema) (text : String) : Except FilterError Predicate := do
  Predicate.bind schema (← Condition.parse text)

/-- Builds the filter of some conditions, up to the first that is wrong. -/
def build (schema : Schema) : List String → Except FilterError Filter
  | [] => .ok []
  | text :: others => do
    let first ← predicate schema text
    let rest ← build schema others
    return first :: rest

/-- Whether a row satisfies every predicate. Each one is evaluated, also after one that does not
hold, so the error is that of the first predicate that has one. -/
def evaluate : Filter → Row → Except EvaluationError Bool
  | [], _ => .ok true
  | p :: others, row => do
    let holds ← p.evaluate row
    let othersHold ← evaluate others row
    return holds && othersHold

/-- Checks every predicate against a schema, up to the first that does not apply. -/
def checkSchema : Filter → Schema → Except EvaluationError Unit
  | [], _ => .ok ()
  | p :: others, schema => do
    p.checkSchema schema
    checkSchema others schema

end Filter

end TableScope
