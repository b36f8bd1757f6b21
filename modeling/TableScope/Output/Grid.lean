import TableScope.Table.Basic
import TableScope.Text.Pieces
import TableScope.Text.Width

/-! # Tables with borders

The first line tells the numbers of rows and columns. Below it stands a grid: the names and types of
the columns, a separator, and the rows. A cell whose text has several lines takes as many lines of
the grid; a column is as wide as its widest line, in columns of the terminal, and a row as tall as
its tallest cell. Cells stand at the left and at the top. Without rows the grid ends with the
separator, and without columns there is no grid.
-/
set_option autoImplicit false

namespace TableScope.Grid

/-- A cell of the grid: its lines. -/
abbrev Block := List (List Char)

/-- The characters of a horizontal border: its start, the places where columns meet, and its end. -/
structure Border where
  left : Char
  junction : Char
  right : Char

def top : Border := ⟨'╭', '┬', '╮'⟩
def separator : Border := ⟨'├', '┼', '┤'⟩
def bottom : Border := ⟨'╰', '┴', '╯'⟩

/-! ## Blocks -/

/-- The cell of a column's name and type. -/
def header (column : Column) : Block :=
  Text.pieces '\n' column.name.toList ++ ["---".toList, column.type.label.toList]

/-- The cell of a value. -/
def block (cell : Cell) : Block := Text.pieces '\n' cell.text

/-- The width of the widest line. -/
def blockWidth (block : Block) : Nat := (block.map Text.displayWidth).foldl max 0

/-- The widths of the columns, each that of its widest block. -/
def columnWidths : List (List Block) → List Nat
  | [] => []
  | [record] => record.map blockWidth
  | record :: others => List.zipWith max (record.map blockWidth) (columnWidths others)

/-- The number of lines of the tallest block. -/
def recordHeight (record : List Block) : Nat := (record.map List.length).foldl max 0

/-! ## Lines -/

/-- A text with blanks after it up to a width, and one more on either side. -/
def pad (width : Nat) (s : List Char) : List Char :=
  ' ' :: (s ++ List.replicate (width - Text.displayWidth s + 1) ' ')

/-- A horizontal border. -/
def Border.line (border : Border) (widths : List Nat) : List Char :=
  border.left ::
    ([border.junction].intercalate (widths.map fun width => List.replicate (width + 2) '─') ++
    [border.right])

/-- One line of text per column, between vertical borders. -/
def contentLine (widths : List Nat) (texts : List (List Char)) : List Char :=
  '│' :: (['│'].intercalate (List.zipWith pad widths texts) ++ ['│'])

/-- The lines of a record, the shorter blocks filled up with empty lines. -/
def recordLines (widths : List Nat) (record : List Block) : List (List Char) :=
  (List.range (recordHeight record)).map fun i =>
    contentLine widths (record.map fun block => block.getD i [])

/-- The lines of the grid. -/
def lines (table : Table) : List (List Char) :=
  if table.schema.isEmpty then []
  else
    let head := table.schema.map header
    let body := table.rows.map fun row => row.map block
    let widths := columnWidths (head :: body)
    top.line widths :: recordLines widths head ++
      separator.line widths :: body.flatMap (recordLines widths) ++
      (if body.isEmpty then [] else [bottom.line widths])

/-- The line of the numbers of rows and columns. -/
def shape (table : Table) : List Char :=
  "shape: (".toList ++ Nat.text table.rows.length ++ ", ".toList ++
    Nat.text table.schema.length ++ [')']

def render (table : Table) : List Char :=
  shape table ++ '\n' :: ['\n'].intercalate (lines table)

end TableScope.Grid
