import Mathlib.Algebra.Order.Ring.Nat
import Mathlib.Order.Bounds.Basic
import TableScope.Output.Grid

/-! # Sizes of a grid

The width of a block and the height of a record are the greatest ones of their lines and blocks, and a
column is as wide as its widest block (`isGreatest_columnWidths`), so each line of a column fits into it
(`displayWidth_le`). Parts of a line that are put between separators take the columns of the terminal
that they take one by one (`totalWidth_intercalate`).
-/
set_option autoImplicit false

namespace TableScope

namespace Text

/-! ## Widths of parts -/

/-- The columns of the terminal that texts take one by one. -/
def totalWidth (parts : List (List Char)) : Nat := (parts.map displayWidth).sum

theorem totalWidth_append (parts others : List (List Char)) :
    totalWidth (parts ++ others) = totalWidth parts + totalWidth others := by
  rw [totalWidth, List.map_append, List.sum_append]
  rfl

theorem totalWidth_intercalate (separator : List (List Char)) (groups : List (List (List Char))) :
    totalWidth (separator.intercalate groups) =
      (groups.map totalWidth).sum + (groups.length - 1) * totalWidth separator := by
  induction groups with
  | nil => simp [totalWidth]
  | cons group groups ih =>
    cases groups with
    | nil => simp
    | cons next others =>
      rw [List.intercalate_cons_of_ne_nil (List.cons_ne_nil _ _), totalWidth_append, totalWidth_append,
        ih]
      simp only [List.map_cons, List.sum_cons, List.length_cons, Nat.add_sub_cancel, Nat.add_mul,
        Nat.one_mul]
      omega

/-- A character that takes one column in front of nothing takes one each time it is repeated. -/
theorem displayWidth_replicate {c : Char} (h : step c .plain = (1, .plain)) (n : Nat) :
    displayWidth (List.replicate n c) = n := by
  have hmeasure : measure (List.replicate n c) = ((n : Int), .plain) := by
    induction n with
    | zero => rfl
    | succ n ih =>
      rw [List.replicate_succ, measure, ih]
      simp only [h, Prod.mk.injEq, and_true]
      omega
  rw [displayWidth, hmeasure]
  rfl

theorem displayWidth_blanks (n : Nat) : displayWidth (List.replicate n ' ') = n :=
  displayWidth_replicate (by decide) n

theorem displayWidth_dashes (n : Nat) : displayWidth (List.replicate n '─') = n :=
  displayWidth_replicate (by decide +kernel) n

end Text

namespace Grid

variable {records : List (List Block)} {record : List Block} {block : Block} {line : List Char}
  {column width count : Nat}

/-! ## The greatest of several sizes -/

theorem isGreatest_foldl_max {sizes : List Nat} (hne : sizes ≠ []) :
    IsGreatest {size | size ∈ sizes} (sizes.foldl max 0) := by
  cases hmax : sizes.max? with
  | none => exact absurd (List.max?_eq_none_iff.mp hmax) hne
  | some size =>
    rw [List.foldl_max, hmax, Option.getD_some, Nat.zero_max]
    obtain ⟨hmem, hle⟩ := List.max?_eq_some_iff.mp hmax
    exact ⟨hmem, fun other ho => hle other ho⟩

theorem isGreatest_blockWidth (hne : block ≠ []) :
    IsGreatest {width | ∃ line ∈ block, Text.displayWidth line = width} (blockWidth block) := by
  have hwidths : block.map Text.displayWidth ≠ [] := mt List.map_eq_nil_iff.mp hne
  simpa only [blockWidth, List.mem_map] using isGreatest_foldl_max hwidths

theorem isGreatest_recordHeight (hne : record ≠ []) :
    IsGreatest {height | ∃ block ∈ record, block.length = height} (recordHeight record) := by
  have hheights : record.map List.length ≠ [] := mt List.map_eq_nil_iff.mp hne
  simpa only [recordHeight, List.mem_map] using isGreatest_foldl_max hheights

theorem length_le_recordHeight (hb : block ∈ record) : block.length ≤ recordHeight record :=
  (isGreatest_recordHeight (List.ne_nil_of_mem hb)).2 ⟨block, hb, rfl⟩

/-! ## Columns -/

theorem columnWidths_cons (hne : records ≠ []) :
    columnWidths (record :: records) =
      List.zipWith max (record.map blockWidth) (columnWidths records) := by
  cases records with
  | nil => exact absurd rfl hne
  | cons next others => rfl

theorem length_columnWidths (hne : records ≠ [])
    (hcount : ∀ record ∈ records, record.length = count) :
    (columnWidths records).length = count := by
  induction records with
  | nil => exact absurd rfl hne
  | cons record records ih =>
    obtain ⟨hrecord, hothers⟩ := List.forall_mem_cons.mp hcount
    cases records with
    | nil => rw [columnWidths, List.length_map, hrecord]
    | cons next others =>
      have hne := List.cons_ne_nil next others
      rw [columnWidths_cons hne, List.length_zipWith, List.length_map, hrecord, ih hne hothers,
        Nat.min_self]

/-- The widths of the blocks in a column. -/
def widthsAt (records : List (List Block)) (column : Nat) : Set Nat :=
  {width | ∃ record ∈ records, ∃ block, record[column]? = some block ∧ blockWidth block = width}

theorem widthsAt_cons (record : List Block) (records : List (List Block)) (column : Nat) :
    widthsAt (record :: records) column = widthsAt [record] column ∪ widthsAt records column := by
  ext width
  simp [widthsAt]

theorem isGreatest_columnWidths (h : (columnWidths records)[column]? = some width) :
    IsGreatest (widthsAt records column) width := by
  have hsingle : ∀ {record : List Block} {width : Nat},
      (record.map blockWidth)[column]? = some width → IsGreatest (widthsAt [record] column) width := by
    intro record width hw
    obtain ⟨block, hblock, rfl⟩ := Option.map_eq_some_iff.mp (List.getElem?_map.symm.trans hw)
    have hwidths : widthsAt [record] column = {blockWidth block} := by
      ext width
      simp [widthsAt, hblock, eq_comm]
    rw [hwidths]
    exact isGreatest_singleton
  induction records generalizing width with
  | nil => cases h
  | cons record records ih =>
    cases records with
    | nil => exact hsingle h
    | cons next others =>
      rw [columnWidths_cons (List.cons_ne_nil next others), List.getElem?_zipWith_eq_some] at h
      obtain ⟨first, rest, hfirst, hrest, rfl⟩ := h
      rw [widthsAt_cons]
      exact (hsingle hfirst).union (ih hrest)

/-- Each line fits into its column. -/
theorem displayWidth_le (hw : (columnWidths records)[column]? = some width) (hr : record ∈ records)
    (hb : record[column]? = some block) (hl : line ∈ block) : Text.displayWidth line ≤ width :=
  calc Text.displayWidth line
    _ ≤ blockWidth block := (isGreatest_blockWidth (List.ne_nil_of_mem hl)).2 ⟨line, hl, rfl⟩
    _ ≤ width := (isGreatest_columnWidths hw).2 ⟨record, hr, block, hb, rfl⟩

/-- Some line takes all of its column. -/
theorem exists_widest (hw : (columnWidths records)[column]? = some width)
    (hne : ∀ record ∈ records, ∀ block ∈ record, block ≠ []) :
    ∃ record ∈ records, ∃ block, record[column]? = some block ∧
      ∃ line ∈ block, Text.displayWidth line = width := by
  obtain ⟨record, hr, block, hb, rfl⟩ := (isGreatest_columnWidths hw).1
  have hblock := hne record hr block (List.mem_of_getElem? hb)
  exact ⟨record, hr, block, hb, (isGreatest_blockWidth hblock).1⟩

end Grid

end TableScope
