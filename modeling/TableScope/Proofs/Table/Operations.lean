import TableScope.Proofs.Cursor.Runs
import TableScope.Proofs.Filter.Building
import TableScope.Proofs.Filter.Conformance
import TableScope.Table.Operations

/-! # Operations on tables as list operations

Selecting, filtering and taking rows from either end run a cursor; here each is the list operation
that it stands for. `collect_eq_ok` reads the table off the events of the cursor, and the events of a
single layer over a fresh scan are those of a list. Filtering is `Filter.sift` on the rows, which fails
on the first row that cannot be evaluated.
-/
set_option autoImplicit false

namespace TableScope

namespace Cursor

variable {table : Table} {cursor : Cursor}

theorem collect_eq (h : cursor.Sound table) (ha : cursor.plan.Applicable table.schema) :
    cursor.collect =
      Event.rows cursor.events >>= Table.ofRows (cursor.plan.shape table.schema) := by
  cases Plan.Sound.starts h with
  | succeeds s applicable result sound still started =>
    have hd := (Plan.hands_events table cursor.plan).drain (cursor.plan.rowsLeft s) s
      ⟨sound, started⟩ (cursor.plan.length_events_le s)
    have hs : Cursor.schema ⟨cursor.plan, s⟩ = cursor.plan.shape table.schema :=
      sound.schema_eq started
    rw [collect, start_eq result]
    simp only [hs]
    rw [hd, cursor.plan.events_congr still]
    rfl
  | fails s e refused result sound still unstarted again => exact absurd ha refused.not_applicable

theorem collect_eq_ok (result : Table) (h : cursor.Sound table)
    (ha : cursor.plan.Applicable table.schema)
    (hs : result.schema = cursor.plan.shape table.schema)
    (he : cursor.events = result.rows.map .ok) : cursor.collect = .ok result := by
  rw [collect_eq h ha, he, Event.rows_map_ok, ← hs]
  exact Table.ofRows_of_rectangular _ _ result.rectangular

theorem collect_eq_error (h : cursor.Sound table) {e : TableError}
    (hr : cursor.plan.Refused table.schema e) : cursor.collect = .error e := by
  have he := (Plan.Sound.start_eq_error_iff h e).mpr hr
  rw [collect, start_eq (Prod.ext rfl he : cursor.plan.start cursor.state = (_, .error e))]

end Cursor

namespace Table

@[ext] theorem ext {s t : Table} (hs : s.schema = t.schema) (hr : s.rows = t.rows) : s = t := by
  cases s
  cases t
  cases hs
  cases hr
  rfl

variable (table : Table)

def withRows (rows : List Row) (h : rows ⊆ table.rows) : Table where
  schema := table.schema
  rows := rows
  rectangular := fun row hr => table.rectangular row (h hr)

def picked (positions : List Nat) : Table where
  schema := pick table.schema positions
  rows := table.rows.map fun row => pick row positions
  rectangular := by
    intro row hr
    obtain ⟨whole, hw, rfl⟩ := List.mem_map.mp hr
    exact length_pick_congr (table.rectangular whole hw) positions

/-- The named columns in the order of the names, each name standing for the first column of that name.
No names at all stand for all columns. -/
def columnsNamed (names : List String) : Table :=
  if names = [] then table else table.picked (names.filterMap table.schema.position?)

def Conforming : Prop := ∀ row ∈ table.rows, table.schema.Fits row

instance : Decidable table.Conforming :=
  inferInstanceAs (Decidable (∀ row ∈ table.rows, table.schema.Fits row))

variable {table} in
theorem Conforming.withRows (h : table.Conforming) {rows : List Row} (hr : rows ⊆ table.rows) :
    (table.withRows rows hr).Conforming := fun row hm => h row (hr hm)

variable {table} in
theorem Conforming.picked (h : table.Conforming) (positions : List Nat) :
    (table.picked positions).Conforming := by
  intro row hm
  obtain ⟨whole, hw, rfl⟩ := List.mem_map.mp hm
  obtain ⟨hlength, hcells⟩ := h whole hw
  refine ⟨length_pick_congr hlength positions, ?_⟩
  intro cell column hz
  rw [Table.picked, zip_pick hlength] at hz
  exact hcells cell column (mem_of_mem_pick hz)

variable {table} in
theorem Conforming.columnsNamed (h : table.Conforming) (names : List String) :
    (table.columnsNamed names).Conforming := by
  rw [Table.columnsNamed]
  split
  · exact h
  · exact h.picked _

theorem select_eq_ok (names : List String) (h : ∀ name ∈ names, table.schema.hasColumn name = true) :
    table.select names = .ok (table.picked (names.filterMap table.schema.position?)) := by
  rw [select, Schema.positions_eq_ok _ _ h]
  have hp : ∀ position ∈ names.filterMap table.schema.position?, position < table.schema.length :=
    fun _ => Schema.lt_of_mem_positions
  apply Cursor.collect_eq_ok (table.picked _) ((Cursor.sound_scan table).project _) ⟨trivial, hp⟩ rfl
  simp only [Cursor.events, Cursor.project, Cursor.scan, Plan.events, picked, List.map_map]
  rfl

theorem head_eq_ok (count : Nat) :
    table.head count = .ok (table.withRows (table.rows.take count) (List.take_subset _ _)) := by
  exact Cursor.collect_eq_ok _ ((Cursor.sound_scan table).limit count 0) trivial rfl
    (Event.window_rows 0 count table.rows)

theorem tail_eq_ok (count : Nat) :
    table.tail count = .ok (table.withRows (table.rows.drop (table.rows.length - count))
      (List.drop_subset _ _)) := by
  have he := Event.window_rows (table.rows.length - count) count table.rows
  rw [List.take_of_length_le (by rw [List.length_drop]; omega)] at he
  exact Cursor.collect_eq_ok _ ((Cursor.sound_scan table).limit count _) trivial rfl he

end Table

/-! ## Filtering -/

/-- The rows that satisfy a filter, or the first error that a row gives. -/
def Filter.sift (predicates : Filter) : List Row → Except EvaluationError (List Row)
  | [] => .ok []
  | row :: rows => do
    let holds ← predicates.evaluate row
    let kept ← sift predicates rows
    return if holds then row :: kept else kept

theorem Filter.sift_sublist {predicates : Filter} {rows kept : List Row}
    (h : predicates.sift rows = .ok kept) : kept.Sublist rows := by
  induction rows generalizing kept with
  | nil => cases h; exact .slnil
  | cons row rows ih =>
    obtain ⟨holds, -, h⟩ := exists_ok_of_bind h
    obtain ⟨others, ho, h⟩ := exists_ok_of_bind h
    cases holds with
    | true => cases h; exact (ih ho).cons_cons row
    | false => cases h; exact (ih ho).cons row

theorem Event.rows_filterMap_kept (predicates : Filter) (rows : List Row) :
    Event.rows ((rows.map .ok).filterMap (Event.kept predicates)) =
      (predicates.sift rows).mapError .evaluation := by
  induction rows with
  | nil => rfl
  | cons row rows ih =>
    rw [List.map_cons, Filter.sift]
    cases hr : predicates.evaluate row with
    | error e =>
      have hk : Event.kept predicates (.ok row) = some (.error e) := by simp only [Event.kept, hr]
      rw [List.filterMap_cons_some hk]
      rfl
    | ok holds =>
      cases holds with
      | true =>
        have hk : Event.kept predicates (.ok row) = some (.ok row) := by simp only [Event.kept, hr]
        rw [List.filterMap_cons_some hk, Event.rows, ih]
        cases predicates.sift rows <;> rfl
      | false =>
        have hk : Event.kept predicates (.ok row) = none := by simp only [Event.kept, hr]
        rw [List.filterMap_cons_none hk, ih]
        cases predicates.sift rows <;> rfl

/-- Whether the predicate is satisfied by a row; a row that it does not apply to does not satisfy it. -/
def Predicate.holds (p : Predicate) (row : Row) : Bool :=
  match p.evaluate row with
  | .ok holds => holds
  | .error _ => false

theorem Filter.eq_all_of_evaluate {predicates : Filter} {row : Row} {holds : Bool}
    (h : Filter.evaluate predicates row = .ok holds) :
    holds = predicates.all fun p => p.holds row := by
  induction predicates generalizing holds with
  | nil => cases h; rfl
  | cons p others ih =>
    obtain ⟨first, hp, h⟩ := exists_ok_of_bind h
    obtain ⟨rest, ho, h⟩ := exists_ok_of_bind h
    cases h
    rw [List.all_cons, ← ih ho, Predicate.holds, hp]

theorem Filter.sift_nil (rows : List Row) : Filter.sift [] rows = .ok rows := by
  induction rows with
  | nil => rfl
  | cons row rows ih =>
    rw [sift, ih]
    rfl

/-- A filter that every row can be evaluated on keeps the rows that satisfy all predicates. -/
theorem Filter.sift_eq_ok {predicates : Filter} {rows : List Row}
    (h : ∀ row ∈ rows, ∃ holds, predicates.evaluate row = .ok holds) :
    predicates.sift rows = .ok (rows.filter fun row => predicates.all fun p => p.holds row) := by
  induction rows with
  | nil => rfl
  | cons row rows ih =>
    obtain ⟨holds, hh⟩ := h row List.mem_cons_self
    rw [sift, hh, ih fun other ho => h other (List.mem_cons_of_mem _ ho), List.filter_cons,
      ← eq_all_of_evaluate hh]
    cases holds <;> rfl

namespace Table

variable (table : Table)

theorem filter_eq_error {predicates : Filter} {e : EvaluationError}
    (h : predicates.checkSchema table.schema = .error e) :
    table.filter predicates = .error (.evaluation e) := by
  have hne : predicates.isEmpty = false := by
    cases predicates with
    | nil => cases h
    | cons p others => rfl
  rw [filter, hne]
  exact Cursor.collect_eq_error ((Cursor.sound_scan table).filter predicates) (.filter trivial h)

theorem collect_filter {predicates : Filter} (h : predicates.checkSchema table.schema = .ok ()) :
    ((Cursor.scan table).filter predicates).collect =
      (predicates.sift table.rows).mapError .evaluation >>= Table.ofRows table.schema := by
  have hc := Cursor.collect_eq ((Cursor.sound_scan table).filter predicates) ⟨trivial, h⟩
  rw [show ((Cursor.scan table).filter predicates).events =
    (table.rows.map .ok).filterMap (Event.kept predicates) from rfl, Event.rows_filterMap_kept] at hc
  exact hc

theorem filter_of_sift_eq_ok {predicates : Filter} {kept : List Row}
    (h : predicates.checkSchema table.schema = .ok ()) (hs : predicates.sift table.rows = .ok kept) :
    table.filter predicates = .ok (table.withRows kept (Filter.sift_sublist hs).subset) := by
  cases predicates with
  | nil =>
    rw [Filter.sift_nil] at hs
    exact congrArg Except.ok (Table.ext rfl (Except.ok.inj hs))
  | cons p others =>
    refine (table.collect_filter h).trans ?_
    rw [hs]
    exact Table.ofRows_of_rectangular table.schema kept
      (table.withRows kept (Filter.sift_sublist hs).subset).rectangular

theorem filter_of_sift_eq_error {predicates : Filter} {e : EvaluationError}
    (h : predicates.checkSchema table.schema = .ok ()) (hs : predicates.sift table.rows = .error e) :
    table.filter predicates = .error (.evaluation e) := by
  cases predicates with
  | nil => rw [Filter.sift_nil] at hs; cases hs
  | cons p others =>
    refine (table.collect_filter h).trans ?_
    rw [hs]
    rfl

variable {table} in
theorem schema_of_filter {predicates : Filter} {kept : Table}
    (h : table.filter predicates = .ok kept) : kept.schema = table.schema := by
  cases hc : predicates.checkSchema table.schema with
  | error e => rw [table.filter_eq_error hc] at h; cases h
  | ok passed =>
    cases hs : predicates.sift table.rows with
    | error e => rw [table.filter_of_sift_eq_error hc hs] at h; cases h
    | ok rows =>
      rw [table.filter_of_sift_eq_ok hc hs] at h
      cases h
      rfl

/-- A filter that the declared types pass keeps the rows that satisfy all predicates. -/
theorem filter_eq_ok {predicates : Filter} (h : predicates.checkSchema table.schema = .ok ())
    (hf : table.Conforming) :
    table.filter predicates = .ok (table.withRows
      (table.rows.filter fun row => predicates.all fun p => p.holds row)
      List.filter_sublist.subset) :=
  table.filter_of_sift_eq_ok h
    (Filter.sift_eq_ok fun row hr => Filter.evaluate_of_checkSchema (hf row hr) h)

end Table

end TableScope
