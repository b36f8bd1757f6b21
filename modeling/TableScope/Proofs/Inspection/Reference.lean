import Mathlib.Data.List.DropRight
import TableScope.Inspection
import TableScope.Proofs.Stored.Reading

/-! # What an inspection shows

`Request.reference` says what a request shows of a whole table, in terms of lists: the columns by
name, the first error of a condition, the first predicate that does not apply, and the rows that a
window leaves of those that satisfy all predicates. `run_eq_reference` is the main statement: reading
only some columns and rows, and filtering and windowing with cursors, come to the same.
-/
set_option autoImplicit false

namespace TableScope

/-- The rows that a window leaves of those that satisfy a test. At the head the rows are counted before
the test, at the tail after it. -/
def Window.rows (window : Window) (test : Row → Bool) (rows : List Row) : List Row :=
  match window with
  | all => rows.filter test
  | head count => (rows.take count).filter test
  | tail count => (rows.filter test).rtake count

/-- What a request shows of the whole table. -/
def Request.reference (request : Request) (table : Table) : Except FilterError (Schema × List Row) :=
  let shown := table.columnsNamed request.columns
  match request.conditions.findSome? fun text => errorOf? (Filter.predicate shown.schema text) with
  | some e => .error e
  | none =>
    let predicates := request.conditions.filterMap fun text =>
      (Filter.predicate shown.schema text).toOption
    match predicates.findSome? fun p => errorOf? (p.checkSchema shown.schema) with
    | some e => .error (.evaluation e)
    | none => .ok (shown.schema,
        request.window.rows (fun row => predicates.all fun p => p.holds row) shown.rows)

namespace Request

variable (request : Request)

def shownRows (test : Row → Bool) (rows : List Row) : List Row :=
  let kept := (request.readOptions.limit.elim rows fun limit => rows.take limit).filter test
  match request.window with
  | .all => kept
  | .head count => kept.take count
  | .tail count => kept.drop (kept.length - count)

/-- The rows of a head are counted once more after the filter, and none is lost by that. -/
theorem shownRows_eq (test : Row → Bool) (rows : List Row) :
    request.shownRows test rows = request.window.rows test rows := by
  unfold shownRows readOptions Window.rows
  cases request.window with
  | all => rfl
  | head count =>
    apply List.take_of_length_le
    exact Nat.le_trans (List.length_filter_le _ _) (List.length_take_le _ _)
  | tail count => rfl

theorem window_eq (kept : Table) :
    ((match request.window with
      | .all => return kept
      | .head count => (kept.head count).mapError .table
      | .tail count => (kept.tail count).mapError .table : Except InspectionError Table)).map
        (fun shown => (shown.schema, shown.rows)) =
      .ok (kept.schema, match request.window with
        | .all => kept.rows
        | .head count => kept.rows.take count
        | .tail count => kept.rows.drop (kept.rows.length - count)) := by
  cases request.window with
  | all => rfl
  | head count =>
    simp only [kept.head_eq_ok count]
    rfl
  | tail count =>
    simp only [kept.tail_eq_ok count]
    rfl

/-- The steps after reading, on a table that conforms to its declared types. -/
theorem run_of_read {content : FileContent} {shown : Table} (hc : shown.Conforming)
    (hr : content.read request.readOptions = .ok (shown.upTo request.readOptions.limit)) :
    (request.run content).map (fun shown => (shown.schema, shown.rows)) = do
      let predicates ← (Filter.build shown.schema request.conditions).mapError .filter
      (predicates.checkSchema shown.schema).mapError fun e => .filter (.evaluation e)
      return (shown.schema,
        request.shownRows (fun row => predicates.all fun p => p.holds row) shown.rows) := by
  have hc' : (shown.upTo request.readOptions.limit).Conforming := hc.withRows _
  have hs : (shown.upTo request.readOptions.limit).schema = shown.schema := rfl
  rw [run, hr]
  simp only [Except.mapError, bind, Except.bind, hs]
  cases Filter.build shown.schema request.conditions with
  | error e => rfl
  | ok predicates =>
    simp only
    cases hp : predicates.checkSchema shown.schema with
    | error e =>
      rw [(shown.upTo request.readOptions.limit).filter_eq_error hp]
      rfl
    | ok passed =>
      rw [(shown.upTo request.readOptions.limit).filter_eq_ok hp hc']
      exact request.window_eq _

/-- Inspecting a file comes to what the reference says of the whole table. -/
theorem run_eq_reference (content : FileContent) (table : Table) (request : Request)
    (hread : content.read {} = .ok table) (hnodup : request.columns.Nodup)
    (hcolumns : ∀ name ∈ request.columns, table.schema.hasColumn name = true) :
    (request.run content).map (fun shown => (shown.schema, shown.rows)) =
      (request.reference table).mapError .filter := by
  obtain ⟨batch, rfl⟩ := FileContent.exists_table_of_read hread rfl
  obtain ⟨hl, rfl⟩ := Batch.read_all_eq_ok_iff.mp hread
  have hr : (FileContent.table batch).read request.readOptions = _ :=
    hl.read_eq request.readOptions hcolumns
  rw [show request.readOptions.columns = request.columns from rfl, distinct_of_nodup hnodup] at hr
  have hc := batch.table_conforming.columnsNamed request.columns
  -- both sides now name the errors in the order in which they are looked for
  rw [run_of_read request hc hr, reference, Filter.build_eq]
  simp only [shownRows_eq]
  cases request.conditions.findSome? fun text =>
      errorOf? (Filter.predicate (batch.table.columnsNamed request.columns).schema text) with
  | some e => rfl
  | none =>
    simp only [Except.mapError, bind, Except.bind, Filter.checkSchema_eq]
    generalize (request.conditions.filterMap fun text => (Filter.predicate
      (batch.table.columnsNamed request.columns).schema text).toOption) = predicates
    cases predicates.findSome? fun p =>
        errorOf? (p.checkSchema (batch.table.columnsNamed request.columns).schema) with
    | some e => rfl
    | none => rfl

def parts : Batch where
  rowCount := 4
  columns := [⟨"part", .utf8, [some "bolt", some "nut", none, some "cog"]⟩,
    ⟨"count", .int64, [some (7 : Int64), some (2 : Int64), some (9 : Int64), some (4 : Int64)]⟩,
    ⟨"part", .boolean, [some true, none, none, some false]⟩]
  aligned := by simp

theorem run_eq_reference_parts :
    let request : Request := ⟨["count", "part"], ["count >= 3", "part contains o"], .tail 1⟩
    (FileContent.table parts).read {} = .ok parts.table ∧ request.columns.Nodup ∧
    (∀ name ∈ request.columns, parts.table.schema.hasColumn name = true) ∧
    (request.run (.table parts)).map (fun shown => (shown.schema, shown.rows)) =
      .ok ([⟨"count", .int64⟩, ⟨"part", .string⟩], [[.int64 4, .string "cog"]]) := by
  intro request
  have hread : (FileContent.table parts).read {} = .ok parts.table := by
    refine Batch.read_all_eq_ok_iff.mpr ⟨.inr ?_, rfl⟩
    simp [Batch.Readable, parts, StoredType.invalidZone?]
  have hnodup : request.columns.Nodup := by decide
  have hcolumns : ∀ name ∈ request.columns, parts.table.schema.hasColumn name = true := by decide
  have href : request.reference parts.table =
      .ok ([⟨"count", .int64⟩, ⟨"part", .string⟩], [[.int64 4, .string "cog"]]) := rfl
  refine ⟨hread, hnodup, hcolumns, ?_⟩
  rw [run_eq_reference (.table parts) parts.table request hread hnodup hcolumns, href]
  rfl

end Request

end TableScope
