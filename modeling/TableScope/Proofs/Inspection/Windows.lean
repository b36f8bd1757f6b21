import TableScope.Proofs.Inspection.Reference

/-! # Windows of one request

The windows of a request are taken of the same rows, although fewer of them may be read
(`exists_rows_of_run_all`). So what a window shows is part of what a larger window at the same end shows,
and of what is shown without a window (`windows_nest`). A tail has as many rows as it asks for, if there
are so many, and a head may have fewer, as its rows are counted before the conditions.
-/
set_option autoImplicit false

namespace TableScope

namespace Window

variable {test : Row → Bool} {rows : List Row} {n m : Nat}

theorem rows_head_of_le (h : n ≤ m) : (head n).rows test rows <+: (head m).rows test rows :=
  (List.take_prefix_take_left h).filter test

theorem rows_head_of_all (n : Nat) : (head n).rows test rows <+: all.rows test rows :=
  (List.take_prefix n rows).filter test

theorem rows_head_eq_all (h : rows.length ≤ n) : (head n).rows test rows = all.rows test rows := by
  exact congrArg (List.filter test) (List.take_of_length_le h)

theorem length_rows_head (n : Nat) : ((head n).rows test rows).length ≤ n :=
  Nat.le_trans (List.length_filter_le _ _) (List.length_take_le _ _)

theorem rows_tail_of_le (h : n ≤ m) : (tail n).rows test rows <:+ (tail m).rows test rows :=
  List.drop_suffix_drop_left _ (Nat.sub_le_sub_left h _)

theorem rows_tail_of_all (n : Nat) : (tail n).rows test rows <:+ all.rows test rows :=
  List.drop_suffix _ _

theorem length_rows_tail (n : Nat) :
    ((tail n).rows test rows).length = min n (all.rows test rows).length := by
  rw [Window.rows, Window.rows, List.rtake, List.length_drop]
  omega

theorem rows_subset (window : Window) : window.rows test rows ⊆ rows := by
  have hkept : rows.filter test ⊆ rows := List.filter_sublist.subset
  cases window with
  | all => exact hkept
  | head count => exact List.Subset.trans (rows_head_of_all count).subset hkept
  | tail count => exact List.Subset.trans (rows_tail_of_all count).subset hkept

/-- The tables that the windows of one request show of a file with a number of rows. -/
structure Nested (rowCount : Nat) (shown : Window → Table) : Prop where
  schema : ∀ window, (shown window).schema = (shown all).schema
  head_of_le : ∀ n m, n ≤ m → (shown (head n)).rows <+: (shown (head m)).rows
  head_of_all : ∀ n, (shown (head n)).rows <+: (shown all).rows
  length_head : ∀ n, (shown (head n)).rows.length ≤ n
  head_eq_all : ∀ n, rowCount ≤ n → shown (head n) = shown all
  tail_of_le : ∀ n m, n ≤ m → (shown (tail n)).rows <:+ (shown (tail m)).rows
  tail_of_all : ∀ n, (shown (tail n)).rows <:+ (shown all).rows
  length_tail : ∀ n, (shown (tail n)).rows.length = min n (shown all).rows.length

theorem nested_of_rows {shown : Window → Table}
    (hschema : ∀ window, (shown window).schema = (shown all).schema)
    (hrows : ∀ window, (shown window).rows = window.rows test rows) : Nested rows.length shown where
  schema := hschema
  head_of_le := fun n m h => by rw [hrows, hrows]; exact rows_head_of_le h
  head_of_all := fun n => by rw [hrows, hrows]; exact rows_head_of_all n
  length_head := fun n => by rw [hrows]; exact length_rows_head n
  head_eq_all := fun n h =>
    Table.ext (hschema _) (by rw [hrows, hrows]; exact rows_head_eq_all h)
  tail_of_le := fun n m h => by rw [hrows, hrows]; exact rows_tail_of_le h
  tail_of_all := fun n => by rw [hrows, hrows]; exact rows_tail_of_all n
  length_tail := fun n => by rw [hrows, hrows]; exact length_rows_tail n

end Window

theorem Batch.length_rows_columnsNamed (batch : Batch) (names : List String) :
    (batch.table.columnsNamed names).rows.length = batch.rowCount := by
  have hrows : batch.table.rows.length = batch.rowCount := by
    simp [Batch.table, Batch.cellRows]
  rw [Table.columnsNamed]
  split
  · exact hrows
  · rw [Table.picked, List.length_map, hrows]

namespace Request

variable {content : FileContent} {batch : Batch} {columns conditions : List String} {all whole : Table}

/-- What can be read without a limit can be read with one. -/
theorem read_of_read_all
    (h : batch.read (readOptions ⟨columns, conditions, .all⟩) = .ok whole) (window : Window) :
    (FileContent.table batch).read (readOptions ⟨columns, conditions, window⟩) =
      .ok ((batch.table.columnsNamed (distinct columns)).upTo
        (readOptions ⟨columns, conditions, window⟩).limit) := by
  obtain ⟨hnames, hloadable, -⟩ := Batch.read_eq_ok_iff.mp h
  have hrequested : (batch.requested (readOptions ⟨columns, conditions, window⟩)).Loadable := by
    cases window with
    | all => exact hloadable
    | head count => exact hloadable.slice 0 count
    | tail count => exact hloadable
  exact hrequested.read_requested hnames

theorem exists_batch_of_run (h : run ⟨columns, conditions, .all⟩ content = .ok all) :
    ∃ batch whole, content = .table batch ∧
      batch.read (readOptions ⟨columns, conditions, .all⟩) = .ok whole := by
  cases hread : content.read (readOptions ⟨columns, conditions, .all⟩) with
  | error e => rw [run, hread] at h; cases h
  | ok whole =>
    obtain ⟨batch, rfl⟩ := FileContent.exists_table_of_read hread rfl
    exact ⟨batch, whole, rfl, hread⟩

theorem run_eq_ok_iff {request : Request} {table shown : Table} (hc : table.Conforming)
    (hr : content.read request.readOptions = .ok (table.upTo request.readOptions.limit)) :
    request.run content = .ok shown ↔
      ∃ predicates, Filter.build table.schema request.conditions = .ok predicates ∧
        predicates.checkSchema table.schema = .ok () ∧ shown.schema = table.schema ∧
        shown.rows = request.window.rows (fun row => predicates.all fun p => p.holds row) table.rows := by
  have hrun := run_of_read request hc hr
  simp only [shownRows_eq] at hrun
  constructor
  · intro h
    rw [h] at hrun
    cases hbuild : Filter.build table.schema request.conditions with
    | error e => rw [hbuild] at hrun; cases hrun
    | ok predicates =>
      simp only [hbuild, bind, Except.bind, Except.mapError] at hrun
      cases hcheck : predicates.checkSchema table.schema with
      | error e => rw [hcheck] at hrun; cases hrun
      | ok passed =>
        rw [hcheck] at hrun
        obtain ⟨hschema, hrows⟩ := Prod.mk.inj (Except.ok.inj hrun)
        exact ⟨predicates, rfl, hcheck, hschema, hrows⟩
  · rintro ⟨predicates, hbuild, hcheck, hschema, hrows⟩
    simp only [hbuild, bind, Except.bind, Except.mapError, hcheck] at hrun
    cases hother : request.run content with
    | error e => rw [hother] at hrun; cases hrun
    | ok other =>
      rw [hother] at hrun
      obtain ⟨hs, hr⟩ := Prod.mk.inj (Except.ok.inj hrun)
      rw [Table.ext (hs.trans hschema.symm) (hr.trans hrows.symm)]

/-- All windows are taken of the same rows, by the same test. -/
theorem exists_rows_of_run_all (h : run ⟨columns, conditions, .all⟩ content = .ok all) :
    ∃ (batch : Batch) (test : Row → Bool) (rows : List Row), content = .table batch ∧
      rows.length = batch.rowCount ∧
      ∀ window, ∃ shown, run ⟨columns, conditions, window⟩ content = .ok shown ∧
        shown.schema = all.schema ∧ shown.rows = window.rows test rows := by
  obtain ⟨batch, whole, rfl, hread⟩ := exists_batch_of_run h
  obtain ⟨table, htable⟩ : ∃ table, batch.table.columnsNamed (distinct columns) = table := ⟨_, rfl⟩
  have hlength := batch.length_rows_columnsNamed (distinct columns)
  have hconf := batch.table_conforming.columnsNamed (distinct columns)
  have hwindows := read_of_read_all hread
  rw [htable] at hlength hconf
  simp only [htable] at hwindows
  -- the conditions apply, as they do without a window
  obtain ⟨predicates, hbuild, hcheck, hschema, -⟩ := (run_eq_ok_iff hconf (hwindows .all)).mp h
  refine ⟨batch, fun row => predicates.all fun p => p.holds row, table.rows, rfl, hlength, ?_⟩
  intro window
  have hrows : window.rows (fun row => predicates.all fun p => p.holds row) table.rows ⊆ table.rows :=
    window.rows_subset
  exact ⟨table.withRows _ hrows, (run_eq_ok_iff hconf (hwindows window)).mpr
    ⟨predicates, hbuild, hcheck, rfl, rfl⟩, hschema.symm, rfl⟩

/-- If a request succeeds without a window it does with any, and the windows nest. -/
theorem windows_nest (content : FileContent) (columns conditions : List String) (all : Table)
    (h : run ⟨columns, conditions, .all⟩ content = .ok all) :
    ∃ (batch : Batch) (shown : Window → Table), content = .table batch ∧
      (∀ window, run ⟨columns, conditions, window⟩ content = .ok (shown window)) ∧
      shown .all = all ∧ Window.Nested batch.rowCount shown := by
  obtain ⟨batch, test, rows, hcontent, hlength, hwindows⟩ := exists_rows_of_run_all h
  choose shown hrun hschema hrows using hwindows
  have hall : shown .all = all := Except.ok.inj ((hrun .all).symm.trans h)
  refine ⟨batch, shown, hcontent, hrun, hall, ?_⟩
  rw [← hlength]
  exact Window.nested_of_rows (fun window => by rw [hschema, hall]) hrows

theorem windows_nest_parts :
    let request := fun window => Request.mk ["count", "part"] ["count >= 4"] window
    ∃ all, run (request .all) (.table parts) = .ok all ∧
      all.rows = [[.int64 7, .string "bolt"], [.int64 9, .null], [.int64 4, .string "cog"]] ∧
      ∃ (batch : Batch) (shown : Window → Table), FileContent.table parts = .table batch ∧
        (∀ window, run (request window) (.table parts) = .ok (shown window)) ∧
        shown .all = all ∧ Window.Nested batch.rowCount shown := by
  intro request
  have hl : parts.Loadable := .inr (by simp [Batch.Readable, parts, StoredType.invalidZone?])
  let table := parts.table.columnsNamed ["count", "part"]
  let count : Predicate := ⟨"count", 0, .relation .ge, .integer 4⟩
  have hconf : table.Conforming := parts.table_conforming.columnsNamed _
  have hread : (FileContent.table parts).read (readOptions (request .all)) = .ok (table.upTo none) :=
    hl.read_eq _ (by decide)
  let kept := Window.all.rows (fun row => [count].all fun p => p.holds row) table.rows
  have hkept : kept ⊆ table.rows := Window.all.rows_subset
  have hrun : run (request .all) (.table parts) = .ok (table.withRows kept hkept) :=
    (run_eq_ok_iff hconf hread).mpr ⟨[count], rfl, rfl, rfl, rfl⟩
  have hrows : kept = [[.int64 7, .string "bolt"], [.int64 9, .null], [.int64 4, .string "cog"]] := by
    decide +kernel
  exact ⟨_, hrun, hrows, windows_nest _ _ _ _ hrun⟩

end Request

end TableScope
