import TableScope.Calendar.Date
import TableScope.Calendar.Time
import TableScope.CommandLine.Arguments
import TableScope.CommandLine.Run
import TableScope.Cursor.Basic
import TableScope.Filter.Comparison
import TableScope.Filter.Condition
import TableScope.Filter.Error
import TableScope.Filter.Literal
import TableScope.Filter.Operator
import TableScope.Filter.Predicate
import TableScope.Inspection
import TableScope.Main
import TableScope.Number.Binary
import TableScope.Number.Decimal
import TableScope.Number.Layout
import TableScope.Number.Numeral
import TableScope.Output.Csv
import TableScope.Output.Format
import TableScope.Output.Grid
import TableScope.Output.Json
import TableScope.Proofs.Cursor.Calls
import TableScope.Proofs.Cursor.Layers
import TableScope.Proofs.Cursor.Runs
import TableScope.Proofs.Cursor.Stream
import TableScope.Proofs.Filter.Building
import TableScope.Proofs.Filter.Conformance
import TableScope.Proofs.Filter.Moving
import TableScope.Proofs.Inspection.Errors
import TableScope.Proofs.Inspection.Reference
import TableScope.Proofs.Number.Exactness
import TableScope.Proofs.Stored.Content
import TableScope.Proofs.Stored.Loading
import TableScope.Proofs.Stored.Reading
import TableScope.Proofs.Stored.Selection
import TableScope.Proofs.Stored.Transposition
import TableScope.Proofs.Table.Exchange
import TableScope.Proofs.Table.Operations
import TableScope.Proofs.Table.Positions
import TableScope.Stored.Column
import TableScope.Stored.Display
import TableScope.Stored.File
import TableScope.Stored.Read
import TableScope.Stored.Type
import TableScope.Table.Basic
import TableScope.Table.Cell
import TableScope.Table.Operations
import TableScope.Table.Schema
import TableScope.Text.Blank
import TableScope.Text.CharWidth
import TableScope.Text.Emoji
import TableScope.Text.Extending
import TableScope.Text.Ignorable
import TableScope.Text.Pieces
import TableScope.Text.Quoted
import TableScope.Text.Ranges
import TableScope.Text.Search
import TableScope.Text.Unprintable
import TableScope.Text.Wide
import TableScope.Text.Width
import TableScope.Proofs.Table.Runs
import TableScope.Proofs.Number.Numerals
import TableScope.Proofs.Output.CsvReader
import TableScope.Proofs.Text.Parts
import TableScope.Proofs.Filter.Spelling
import TableScope.Proofs.Filter.Meaning
import TableScope.Proofs.Number.Rounding
import TableScope.Proofs.Number.Layouts
import TableScope.Proofs.Output.JsonReader
import TableScope.Proofs.Output.Json
import TableScope.Proofs.Text.Fields
import TableScope.Proofs.Calendar.Dates
import TableScope.Proofs.Calendar.Instants
import TableScope.Proofs.Stored.Moments
import TableScope.Proofs.Stored.Zones
import TableScope.Proofs.CommandLine.Outcomes
import TableScope.Proofs.Table.Conjunction
import TableScope.Proofs.Table.Partition
import TableScope.Proofs.Filter.Cutting
import TableScope.Proofs.Number.Grammar
import TableScope.Proofs.Filter.Kinds
import TableScope.Proofs.Number.Order
import TableScope.Proofs.Filter.Numbers
import TableScope.Proofs.Filter.Displayed
import TableScope.Proofs.Table.Bounds
import TableScope.Proofs.Inspection.Windows
import TableScope.Proofs.Filter.Binding
import TableScope.Proofs.Table.Selecting
import TableScope.Proofs.Text.Bytes
import TableScope.Proofs.Table.TextTests
import TableScope.Proofs.Number.Whole
import TableScope.Proofs.Output.Points
import TableScope.Proofs.Text.Joining
import TableScope.Proofs.Inspection.ColumnNames
import TableScope.Proofs.Output.Columns
import TableScope.Proofs.Output.Lines
import TableScope.Proofs.Output.Grid
import TableScope.Proofs.Stored.Exits
