import TableScope.Text.Search

/-! # Operators of conditions

Six operators compare a cell with a literal, three look for the text of a literal in the text of a
cell.
-/
set_option autoImplicit false

namespace TableScope

inductive Relation
  | ge
  | le
  | eq
  | ne
  | gt
  | lt
deriving DecidableEq, Repr

/-- Whether the relation holds of two values in the given order. -/
def Relation.holds : Relation → Ordering → Bool
  | ge, o => o != .lt
  | le, o => o != .gt
  | eq, o => o == .eq
  | ne, o => o != .eq
  | gt, o => o == .gt
  | lt, o => o == .lt

inductive TextTest
  | contains
  | startsWith
  | endsWith
deriving DecidableEq, Repr

/-- Whether `needle` stands in `text` where the test asks for it. -/
def TextTest.holds : TextTest → (text needle : List Char) → Bool
  | contains, text, needle => Text.occurs needle text
  | startsWith, text, needle => needle.isPrefixOf text
  | endsWith, text, needle => needle.isSuffixOf text

inductive Operator
  | relation (relation : Relation)
  | textTest (test : TextTest)
deriving DecidableEq, Repr

namespace Operator

def spelling : Operator → String
  | relation .ge => ">="
  | relation .le => "<="
  | relation .eq => "=="
  | relation .ne => "!="
  | relation .gt => ">"
  | relation .lt => "<"
  | textTest .contains => "contains"
  | textTest .startsWith => "startswith"
  | textTest .endsWith => "endswith"

/-- All operators in the order in which a condition is searched for them: each comes before the ones
that its spelling contains. -/
def all : List Operator :=
  [relation .ge, relation .le, relation .eq, relation .ne, relation .gt, relation .lt,
    textTest .contains, textTest .startsWith, textTest .endsWith]

theorem mem_all (op : Operator) : op ∈ all := by
  rcases op with (r | t)
  · cases r <;> simp [all]
  · cases t <;> simp [all]

theorem spelling_ne_nil (op : Operator) : op.spelling.toList ≠ [] := by
  rcases op with (r | t)
  · cases r <;> simp [spelling]
  · cases t <;> simp [spelling]

end Operator

end TableScope
