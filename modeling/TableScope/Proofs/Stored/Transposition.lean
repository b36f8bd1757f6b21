import Mathlib.Data.List.SplitLengths
import TableScope.Proofs.Stored.Content
import TableScope.Proofs.Stored.Selection

/-! # Loading is a transposition

The table of a file has a row for each row of the file and a cell for each column, and the cell at place
`(i, j)` shows value `i` of column `j` (`Batch.Shows`). The rows may arrive in batches of any sizes,
and dictionaries may stand around the types of the columns (`read_transposes`).
-/
set_option autoImplicit false

namespace TableScope

namespace Batch

variable {batch : Batch}

/-! ## Consecutive batches -/

/-- Consecutive batches of some sizes, the first of them after `start` rows. -/
def cut (batch : Batch) : (start : Nat) → (sizes : List Nat) → List Batch
  | _, [] => []
  | start, size :: sizes => batch.slice start size :: batch.cut (start + size) sizes

/-- The table of the rows of some batches. -/
def gather (schema : Schema) (batches : List Batch) : Except ReadError Table := do
  let rows ← allRows batches
  (Table.ofRows schema rows).mapError .table

theorem read_all_eq_gather (batch : Batch) :
    batch.read {} = gather batch.schema (batch.split size) := by
  simp only [read, distinct, positions, bind, Except.bind, List.isEmpty_nil, if_true,
    Option.elim_none, gather]
  cases allRows (batch.split size) with
  | error e => rfl
  | ok rows =>
    simp only
    cases (Table.ofRows batch.schema rows).mapError ReadError.table <;> rfl

theorem map_cellRows_cut (start : Nat) (sizes : List Nat) :
    (batch.cut start sizes).map cellRows = sizes.splitLengths (batch.cellRows.drop start) := by
  induction sizes generalizing start with
  | nil => rfl
  | cons size sizes ih =>
    rw [cut, List.map_cons, ih, List.splitLengths_cons, cellRows_slice, List.drop_drop]

theorem Readable.of_mem_cut {start : Nat} {sizes : List Nat} {piece : Batch} (h : batch.Readable)
    (hp : piece ∈ batch.cut start sizes) : piece.Readable := by
  induction sizes generalizing start with
  | nil => cases hp
  | cons size sizes ih =>
    rcases List.mem_cons.mp hp with rfl | hp
    · exact (slice_readable_iff start size).mpr h
    · exact ih hp

/-- No rows but those of a table are in its batches, so a table that has rows can be loaded if its
batches can. -/
theorem loadable_of_cut {sizes : List Nat} (hs : sizes.sum = batch.rowCount)
    (hr : ∀ piece ∈ batch.cut 0 sizes, piece.Readable) : batch.Loadable := by
  cases sizes with
  | nil => exact .inl hs.symm
  | cons size sizes => exact .inr ((slice_readable_iff 0 size).mp (hr _ List.mem_cons_self))

theorem gather_cut {sizes : List Nat} (hs : sizes.sum = batch.rowCount)
    (hr : ∀ piece ∈ batch.cut 0 sizes, piece.Readable) :
    gather batch.schema (batch.cut 0 sizes) = .ok batch.table := by
  have hlength : batch.cellRows.length = batch.rowCount := by simp [cellRows]
  have hflatten : (sizes.splitLengths batch.cellRows).flatten = batch.cellRows :=
    List.flatten_splitLengths _ _ (by omega)
  rw [gather, allRows_eq_ok _ hr, map_cellRows_cut, List.drop_zero, hflatten]
  exact batch.ofRows_limit none

/-! ## The table of a file -/

structure Shows (batch : Batch) (table : Table) : Prop where
  schema : table.schema = batch.columns.map fun stored => ⟨stored.name, stored.type.columnType⟩
  height : table.rows.length = batch.rowCount
  width : ∀ row ∈ table.rows, row.length = batch.columns.length
  cell : ∀ (i j : Nat) (stored : StoredColumn) (value : Option stored.type.Value),
    batch.columns[j]? = some stored → stored.values[i]? = some value →
    ∃ row cell, table.rows[i]? = some row ∧ row[j]? = some cell ∧ stored.type.Shown value cell

theorem getElem?_cellRows {i : Nat} (h : i < batch.rowCount) :
    batch.cellRows[i]? = some (rowAt batch.columns i) := by
  rw [cellRows, List.getElem?_map, List.getElem?_range h]
  rfl

theorem getElem?_rowAt {columns : List StoredColumn} {stored : StoredColumn} (i : Nat) {j : Nat}
    (h : columns[j]? = some stored) : (rowAt columns i)[j]? = some (stored.cellAt i) := by
  rw [rowAt, List.getElem?_map, h]
  rfl

theorem cellAt_of_getElem? {stored : StoredColumn} {i : Nat} {value : Option stored.type.Value}
    (h : stored.values[i]? = some value) : stored.cellAt i = value.elim .null stored.type.cell := by
  rw [StoredColumn.cellAt, StoredColumn.cells, List.getD_eq_getElem?_getD, List.getElem?_map, h]
  rfl

theorem shows_table (batch : Batch) : batch.Shows batch.table := by
  constructor
  · rfl
  · simp [table, cellRows]
  · intro row hr
    rw [(fits_of_mem_cellRows hr).1, Batch.schema, List.length_map]
  · intro i j stored value hj hi
    have hlt : i < batch.rowCount := by
      rw [← batch.aligned stored (List.mem_of_getElem? hj)]
      exact (List.getElem?_eq_some_iff.mp hi).1
    refine ⟨rowAt batch.columns i, stored.cellAt i, getElem?_cellRows hlt, getElem?_rowAt i hj, ?_⟩
    rw [cellAt_of_getElem? hi]
    exact stored.type.shown value

/-! ## Dictionaries -/

/-- The file with all dictionaries around the types of its columns left out. -/
def plain (batch : Batch) : Batch where
  rowCount := batch.rowCount
  columns := batch.columns.map StoredColumn.plain
  aligned := by
    intro stored h
    obtain ⟨whole, hw, rfl⟩ := List.mem_map.mp h
    have hcells := congrArg List.length whole.loadsAs_plain.cells
    rw [StoredColumn.cells, StoredColumn.cells, List.length_map, List.length_map] at hcells
    rw [hcells, batch.aligned whole hw]

theorem table_plain (batch : Batch) : batch.plain.table = batch.table := by
  have hrow : ∀ i, rowAt batch.plain.columns i = rowAt batch.columns i := by
    intro i
    rw [rowAt, plain, rowAt, List.map_map]
    apply List.map_congr_left
    intro stored _
    exact congrArg (List.getD · i .null) stored.loadsAs_plain.cells
  apply Table.ext
  · show batch.plain.columns.map StoredColumn.column = batch.columns.map StoredColumn.column
    rw [plain, List.map_map]
    exact List.map_congr_left fun stored _ => stored.loadsAs_plain.column
  · exact List.map_congr_left fun i _ => hrow i

theorem Loadable.plain (h : batch.Loadable) : batch.plain.Loadable := by
  rcases h with hz | hr
  · exact .inl hz
  · refine .inr ?_
    intro stored hm
    obtain ⟨whole, hw, rfl⟩ := List.mem_map.mp hm
    rw [whole.loadsAs_plain.invalidZone?]
    exact hr whole hw

/-- In whatever batches its rows arrive, a file that can be decoded is loaded as the table of its
values. -/
theorem read_transposes (batch : Batch) (sizes : List Nat) (hsizes : sizes.sum = batch.rowCount)
    (hdecode : ∀ piece ∈ batch.cut 0 sizes, ∃ cells, decode piece.columns = .ok cells) :
    (FileContent.table batch).read {} = gather batch.schema (batch.split size) ∧
    ∃ table, batch.Shows table ∧ gather batch.schema (batch.cut 0 sizes) = .ok table ∧
      (FileContent.table batch).read {} = .ok table ∧
      (FileContent.table batch.plain).read {} = .ok table := by
  have hr : ∀ piece ∈ batch.cut 0 sizes, piece.Readable := by
    intro piece hp
    obtain ⟨cells, hc⟩ := hdecode piece hp
    exact readable_of_decode _ hc
  have hl : batch.Loadable := loadable_of_cut hsizes hr
  have hplain : (FileContent.table batch.plain).read {} = .ok batch.plain.table :=
    read_all_eq_ok_iff.mpr ⟨hl.plain, rfl⟩
  rw [table_plain] at hplain
  exact ⟨batch.read_all_eq_gather, batch.table, batch.shows_table, gather_cut hsizes hr,
    read_all_eq_ok_iff.mpr ⟨hl, rfl⟩, hplain⟩

theorem read_transposes_ledger :
    let ledger := FileContent.ledger
    [2, 0, 1].sum = ledger.rowCount ∧
    (∀ piece ∈ ledger.cut 0 [2, 0, 1], ∃ cells, decode piece.columns = .ok cells) ∧
    (FileContent.table ledger).read {} = gather ledger.schema (ledger.split size) ∧
    ∃ table, ledger.Shows table ∧ gather ledger.schema (ledger.cut 0 [2, 0, 1]) = .ok table ∧
      (FileContent.table ledger).read {} = .ok table ∧
      (FileContent.table ledger.plain).read {} = .ok table := by
  intro ledger
  have hdecode : ∀ piece ∈ ledger.cut 0 [2, 0, 1], ∃ cells, decode piece.columns = .ok cells :=
    fun piece hp => ⟨_, decode_eq_ok _ (FileContent.ledger_readable.of_mem_cut hp)⟩
  exact ⟨rfl, hdecode, read_transposes ledger [2, 0, 1] rfl hdecode⟩

end Batch

end TableScope
