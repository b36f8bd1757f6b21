import TableScope.Stored.Column
import TableScope.Table.Basic

/-! # Files

What is at a path: columns of equal length, or something that fails to be read at one of the steps of
reading. Rows are loaded in batches, each of which is again some columns of equal length.
-/
set_option autoImplicit false

namespace TableScope

/-- Columns that all have the same number of values. -/
structure Batch where
  rowCount : Nat
  columns : List StoredColumn
  aligned : ∀ stored ∈ columns, stored.values.length = rowCount

namespace Batch

/-- Columns as a batch, if they have equally many values. -/
def ofColumns? (columns : List StoredColumn) : Option Batch :=
  let rowCount := (columns.head?.map fun stored => stored.values.length).getD 0
  if h : ∀ stored ∈ columns, stored.values.length = rowCount then
    some ⟨rowCount, columns, h⟩
  else none

/-- The schema that the rows have as a table. -/
def schema (batch : Batch) : Schema := batch.columns.map StoredColumn.column

/-- `count` rows after the first `start`, or as many as there are. -/
def slice (batch : Batch) (start count : Nat) : Batch where
  rowCount := min count (batch.rowCount - start)
  columns := batch.columns.map fun stored => stored.slice start count
  aligned := by
    intro stored h
    obtain ⟨whole, hw, rfl⟩ := List.mem_map.mp h
    simp [StoredColumn.slice, batch.aligned whole hw]

/-- The columns at positions that satisfy a test, in their order. -/
def keep (batch : Batch) (test : Nat → Bool) : Batch where
  rowCount := batch.rowCount
  columns := (batch.columns.zipIdx.filter fun entry => test entry.2).map Prod.fst
  aligned := by
    intro stored h
    obtain ⟨entry, he, rfl⟩ := List.mem_map.mp h
    have hm := (List.mem_filter.mp he).1
    have hz := List.mem_zipIdx hm
    apply batch.aligned
    rw [hz.2.2]
    exact List.getElem_mem _

/-- The rows in consecutive batches of at most `size` rows each. -/
def split (size : Nat) (batch : Batch) : List Batch :=
  (List.range ((batch.rowCount + size - 1) / size)).map fun i => batch.slice (i * size) size

end Batch

/-! ## Failures of other code

Files are opened by the system, and their format is decoded by a library; neither is looked into. What
they report is a cause that this program shows.
-/

/-- An error of other code: what it says, and what the errors behind it say. -/
structure Cause where
  text : String
  behind : List String := []
deriving DecidableEq, Repr

/-- The texts of an error and of those behind it, the outermost first. -/
def Cause.texts (cause : Cause) : List String := cause.text :: cause.behind

/-- The steps of reading that other code takes, in their order; the last two for each batch. -/
inductive ReadStep
  /-- Opening the file. -/
  | opening
  /-- Decoding the description of the table. -/
  | metadata
  /-- Making ready to load the columns that are asked for. -/
  | preparation
  /-- Loading the next rows. -/
  | batch
  /-- Converting a column of these rows. -/
  | column (name : String)
deriving DecidableEq, Repr

/-- A step that failed, and why. -/
structure Fault where
  step : ReadStep
  cause : Cause
deriving DecidableEq, Repr

/-! ## Footers

The one part of the file format that is looked at: a file ends with a description of its table, the
length of the description and a mark.
-/

/-- What is wrong with the end of a file. -/
inductive FooterFault
  | tooSmall (size needed : Nat)
  | unmarked
  /-- The length of the description is zero. -/
  | undescribed
deriving DecidableEq, Repr

namespace FooterFault

def cause : FooterFault → Cause
  | tooSmall size needed =>
    ⟨"EOF: Parquet file too small. Size is " ++ toString size ++ " but need " ++ toString needed, []⟩
  | unmarked => ⟨"Parquet error: Invalid Parquet file. Corrupt footer", []⟩
  | undescribed => ⟨"Parquet error: Could not parse metadata: end of file", []⟩

def mark : List UInt8 := [80, 65, 82, 49]

/-- The number of a mark and of a length before it. -/
def footerSize : Nat := 8

/-- A number of four bytes, the lowest first. -/
def length : List UInt8 → Nat
  | [] => 0
  | byte :: others => byte.toNat + 256 * length others

/-- What is wrong with the end of some bytes, if anything is. The last four have to be the mark, and the
four before them the length of the description before them. -/
def ofBytes? (bytes : List UInt8) : Option FooterFault :=
  let size := bytes.length
  let footer := bytes.drop (size - footerSize)
  let described := length (footer.take 4)
  if size < footerSize then some (tooSmall size footerSize)
  else if footer.drop 4 ≠ mark then some unmarked
  else if size < described + footerSize then some (tooSmall size (described + footerSize))
  else if described = 0 then some undescribed
  else none

end FooterFault

/-! ## Paths -/

/-- What reading meets at a path, as far as it concerns the columns that are asked for. -/
inductive FileContent
  | missing
  /-- Something that cannot be opened. -/
  | unopened (cause : Cause)
  /-- A file whose description of a table cannot be decoded. -/
  | undescribed (cause : Cause)
  /-- A table that nothing can be loaded of. -/
  | unprepared (batch : Batch) (cause : Cause)
  /-- A table whose rows can be loaded up to a batch. The batch after them cannot, or it can, but one of
  its columns cannot be converted. -/
  | damaged (before : Batch) (column : Option String) (cause : Cause)
  | table (batch : Batch)

namespace FileContent

/-- A file with a description that this library has no decoder for. -/
def undecoded : FileContent := undescribed ⟨"NYI: the metadata of Parquet files is not decoded", []⟩

/-- The file that some bytes are. If their end is sound, it is what they are decoded as. -/
def bytes (bytes : List UInt8) (decode : List UInt8 → FileContent := fun _ => undecoded) :
    FileContent :=
  match FooterFault.ofBytes? bytes with
  | some fault => undescribed fault.cause
  | none => decode bytes

end FileContent

end TableScope
