import TableScope.Proofs.Table.Operations
import TableScope.Stored.Read

/-! # Loading batches

A batch is loaded by turning its columns into rows, a number of rows at a time. The rows do not depend
on where the batch is cut (`Loadable.allRows_split`), they have the cell of value `i` of column `j` at place
`(i, j)`, and they fit the declared types (`fits_of_mem_cellRows`). Loading fails only on a zone that
is no offset, and only if there is a row to show.
-/
set_option autoImplicit false

namespace TableScope

/-! ## Cells -/

theorem StoredType.cell_conforms : (type : StoredType) → (value : type.Value) →
    (type.cell value).Conforms type.columnType
  | .null, value => nomatch value
  | .boolean, value => .boolean value
  | .int8, _ | .int16, _ | .int32, _ | .int64, _ | .uint8, _ | .uint16, _ | .uint32, _ => .int64 _
  | .uint64, value => .uint64 value
  | .float16, _ | .float32, _ | .float64, _ => .float64 _
  | .utf8, _ | .largeUtf8, _ | .utf8View, _ => .string _ _ rfl
  | .binary, _ | .largeBinary, _ | .binaryView, _ | .fixedBinary _, _ => .string _ _ rfl
  | .date32, _ | .date64, _ | .time _, _ | .timestamp _ _, _ | .duration _, _ => .string _ _ rfl
  | .yearMonthInterval, _ | .dayTimeInterval, _ | .monthDayNanoInterval, _ => .string _ _ rfl
  | .decimal128 _ _, _ | .decimal256 _ _, _ => .string _ _ rfl
  | .dictionary values, value => cell_conforms values value
  | .list _, _ | .largeList _, _ | .fixedList _ _, _ | .struct _, _ => .string _ _ rfl

namespace StoredColumn

def cellAt (stored : StoredColumn) (i : Nat) : Cell := stored.cells.getD i .null

theorem cellAt_conforms (stored : StoredColumn) (i : Nat) :
    (stored.cellAt i).Conforms stored.column.type := by
  rw [cellAt, List.getD_eq_getElem?_getD, cells, List.getElem?_map]
  cases stored.values[i]? with
  | none => exact .null _
  | some value =>
    cases value with
    | none => exact .null _
    | some value => exact stored.type.cell_conforms value

theorem cellAt_slice (stored : StoredColumn) (start count i : Nat) (h : i < count) :
    (stored.slice start count).cellAt i = stored.cellAt (start + i) := by
  simp only [cellAt, cells, slice, List.getD_eq_getElem?_getD, List.getElem?_map]
  rw [List.getElem?_take_of_lt h, List.getElem?_drop]

end StoredColumn

namespace Batch

/-! ## Rows -/

def rowAt (columns : List StoredColumn) (i : Nat) : Row := columns.map fun stored => stored.cellAt i

def cellRows (batch : Batch) : List Row := (List.range batch.rowCount).map (rowAt batch.columns)

/-- The zones of all columns are offsets. -/
def Readable (batch : Batch) : Prop := ∀ stored ∈ batch.columns, stored.type.invalidZone? = none

theorem transpose_eq (rowCount : Nat) (columns : List (List Cell)) :
    transpose rowCount columns =
      (List.range rowCount).map fun i => columns.map fun cells => cells.getD i .null := by
  induction rowCount generalizing columns with
  | zero => rfl
  | succ rowCount ih =>
    rw [transpose, ih, List.range_succ_eq_map, List.map_cons, List.map_map]
    congr 1
    · apply List.map_congr_left
      intro cells _
      cases cells <;> rfl
    · apply List.map_congr_left
      intro i _
      rw [List.map_map]
      apply List.map_congr_left
      intro cells _
      cases cells <;> rfl

theorem decode_eq_ok (columns : List StoredColumn)
    (h : ∀ stored ∈ columns, stored.type.invalidZone? = none) :
    decode columns = .ok (columns.map StoredColumn.cells) := by
  induction columns with
  | nil => rfl
  | cons stored others ih =>
    rw [decode, h stored List.mem_cons_self]
    simp only
    rw [ih fun other ho => h other (List.mem_cons_of_mem _ ho)]
    rfl

theorem readable_of_decode (columns : List StoredColumn) {cells : List (List Cell)}
    (h : decode columns = .ok cells) : ∀ stored ∈ columns, stored.type.invalidZone? = none := by
  induction columns generalizing cells with
  | nil => exact nofun
  | cons stored others ih =>
    rw [decode] at h
    cases hz : stored.type.invalidZone? with
    | some zone => rw [hz] at h; cases h
    | none =>
      rw [hz] at h
      cases hd : decode others with
      | error e => rw [hd] at h; cases h
      | ok rest => exact List.forall_mem_cons.mpr ⟨hz, ih hd⟩

variable {batch : Batch}

theorem Readable.rows_eq (h : batch.Readable) : batch.rows = .ok batch.cellRows := by
  rw [rows, decode_eq_ok _ h]
  simp only [bind, Except.bind, pure, Except.pure, transpose_eq, List.map_map]
  rfl

theorem readable_of_rows {rows : List Row} (h : batch.rows = .ok rows) : batch.Readable := by
  rw [Batch.rows] at h
  cases hd : decode batch.columns with
  | error e => rw [hd] at h; cases h
  | ok cells => exact readable_of_decode _ hd

/-- Every row that is loaded fits the declared types. -/
theorem fits_of_mem_cellRows {row : Row} (h : row ∈ batch.cellRows) : batch.schema.Fits row := by
  obtain ⟨i, -, rfl⟩ := List.mem_map.mp h
  refine ⟨by rw [rowAt, schema, List.length_map, List.length_map], ?_⟩
  intro cell column hm
  rw [rowAt, schema, List.zip_map', List.mem_map] at hm
  obtain ⟨stored, -, he⟩ := hm
  cases he
  exact stored.cellAt_conforms i

/-! ## Cutting a batch -/

theorem slice_readable_iff (start count : Nat) :
    (batch.slice start count).Readable ↔ batch.Readable := by
  constructor
  · intro h stored hm
    exact h (stored.slice start count) (List.mem_map_of_mem hm)
  · intro h stored hm
    obtain ⟨whole, hw, rfl⟩ := List.mem_map.mp hm
    exact h whole hw

theorem cellRows_slice (start count : Nat) :
    (batch.slice start count).cellRows = (batch.cellRows.drop start).take count := by
  apply List.ext_getElem
  · simp [cellRows, slice]
  · intro i h _
    have hi : i < count := by
      simp only [cellRows, slice, List.length_map, List.length_range] at h
      omega
    simp only [cellRows, slice, List.getElem_map, List.getElem_range, List.getElem_take,
      List.getElem_drop, rowAt, List.map_map]
    apply List.map_congr_left
    intro stored _
    exact stored.cellAt_slice start count i hi

theorem flatten_slices {α : Type} (items : List α) (size pieces : Nat) :
    ((List.range pieces).map fun i => (items.drop (i * size)).take size).flatten =
      items.take (pieces * size) := by
  induction pieces with
  | zero => simp
  | succ pieces ih =>
    rw [List.range_succ, List.map_append, List.flatten_append, ih, Nat.succ_mul, List.take_add]
    simp

theorem allRows_eq_ok (batches : List Batch) (h : ∀ batch ∈ batches, batch.Readable) :
    allRows batches = .ok (batches.map cellRows).flatten := by
  induction batches with
  | nil => rfl
  | cons batch batches ih =>
    rw [allRows, (h batch List.mem_cons_self).rows_eq,
      ih fun other ho => h other (List.mem_cons_of_mem _ ho)]
    rfl

theorem readable_of_allRows (batches : List Batch) {rows : List Row}
    (h : allRows batches = .ok rows) : ∀ batch ∈ batches, batch.Readable := by
  induction batches generalizing rows with
  | nil => exact nofun
  | cons batch batches ih =>
    rw [allRows] at h
    cases hb : batch.rows with
    | error e => rw [hb] at h; cases h
    | ok first =>
      cases ho : allRows batches with
      | error e => rw [hb, ho] at h; cases h
      | ok rest => exact List.forall_mem_cons.mpr ⟨readable_of_rows hb, ih ho⟩

/-- There is nothing to show, or everything can be shown. -/
def Loadable (batch : Batch) : Prop := batch.rowCount = 0 ∨ batch.Readable

theorem Loadable.allRows_split (h : batch.Loadable) {size : Nat} (hs : 0 < size) :
    allRows (batch.split size) = .ok batch.cellRows := by
  have hr : ∀ piece ∈ batch.split size, piece.Readable := by
    intro piece hp
    obtain ⟨i, hi, rfl⟩ := List.mem_map.mp hp
    rcases h with hz | hr
    · rw [hz, Nat.zero_add, Nat.div_eq_of_lt (by omega)] at hi
      cases hi
    · exact (slice_readable_iff _ _).mpr hr
  have hlength : batch.cellRows.length ≤ (batch.rowCount + size - 1) / size * size := by
    have hd := Nat.div_add_mod (batch.rowCount + size - 1) size
    have hm := Nat.mod_lt (batch.rowCount + size - 1) hs
    rw [Nat.mul_comm] at hd
    simp only [cellRows, List.length_map, List.length_range]
    omega
  rw [allRows_eq_ok _ hr, split, List.map_map]
  refine congrArg Except.ok (Eq.trans ?_ (List.take_of_length_le hlength))
  rw [← flatten_slices batch.cellRows size]
  congr 1
  apply List.map_congr_left
  intro i _
  exact cellRows_slice (i * size) size

theorem loadable_of_allRows_split {size : Nat} (hs : 0 < size) {rows : List Row}
    (h : allRows (batch.split size) = .ok rows) : batch.Loadable := by
  by_cases hz : batch.rowCount = 0
  · exact .inl hz
  · have hpos : 0 < (batch.rowCount + size - 1) / size := Nat.div_pos (by omega) hs
    have hm : batch.slice (0 * size) size ∈ batch.split size :=
      List.mem_map_of_mem (List.mem_range.mpr hpos)
    exact .inr ((slice_readable_iff _ _).mp (readable_of_allRows _ h _ hm))

end Batch

end TableScope
