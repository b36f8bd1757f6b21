import TableScope.Inspection
import TableScope.Proofs.Filter.Moving
import TableScope.Proofs.Table.Operations

/-! # Filtering before and after selecting

The conditions of a filter are bound to columns by name and its predicates look at cells by position.
Selecting the columns that the conditions are about therefore does not matter to a filter: it comes to
the same before and after, the errors of single rows included (`filter_select_comm`).
-/
set_option autoImplicit false

namespace TableScope

namespace Filter

theorem sift_moved {predicates : Filter} {positions : List Nat} {rows : List Row}
    (hm : ∀ p ∈ predicates, p.position ∈ positions)
    (hr : ∀ row ∈ rows, ∀ position ∈ positions, position < row.length) :
    sift (predicates.map (Predicate.moved positions)) (rows.map fun row => pick row positions) =
      (sift predicates rows).map (List.map fun row => pick row positions) := by
  induction rows with
  | nil => rfl
  | cons row rows ih =>
    obtain ⟨hrow, hrows⟩ := List.forall_mem_cons.mp hr
    rw [List.map_cons, sift, sift, evaluate_moved hm hrow, ih hrows]
    cases evaluate predicates row with
    | error e => rfl
    | ok holds =>
      cases sift predicates rows with
      | error e => rfl
      | ok kept => cases holds <;> rfl

end Filter

namespace Table

def filterThenSelect (table : Table) (conditions names : List String) :
    Except InspectionError Table := do
  let predicates ← (Filter.build table.schema conditions).mapError .filter
  let kept ← (table.filter predicates).mapError .table
  (kept.select names).mapError .table

def selectThenFilter (table : Table) (names conditions : List String) :
    Except InspectionError Table := do
  let selected ← (table.select names).mapError .table
  let predicates ← (Filter.build selected.schema conditions).mapError .filter
  (selected.filter predicates).mapError .table

/-- A filter with moved positions does to some columns what the filter does to all columns. -/
theorem filter_picked (table : Table) {predicates : Filter} {positions : List Nat}
    (hm : ∀ p ∈ predicates, p.position ∈ positions)
    (hr : ∀ position ∈ positions, position < table.schema.length) :
    (table.picked positions).filter (predicates.map (Predicate.moved positions)) =
      (table.filter predicates).map fun kept => kept.picked positions := by
  have hrows : ∀ row ∈ table.rows, ∀ position ∈ positions, position < row.length :=
    fun row hrow position hp => (table.rectangular row hrow).symm ▸ hr position hp
  have hsift := Filter.sift_moved hm hrows
  have hcheck := Filter.checkSchema_moved hm hr
  cases hc : predicates.checkSchema table.schema with
  | error e =>
    rw [hc] at hcheck
    rw [table.filter_eq_error hc, (table.picked positions).filter_eq_error hcheck]
    rfl
  | ok passed =>
    rw [hc] at hcheck
    cases hs : predicates.sift table.rows with
    | error e =>
      rw [hs] at hsift
      rw [table.filter_of_sift_eq_error hc hs,
        (table.picked positions).filter_of_sift_eq_error hcheck hsift]
      rfl
    | ok kept =>
      rw [hs] at hsift
      rw [table.filter_of_sift_eq_ok hc hs,
        (table.picked positions).filter_of_sift_eq_ok hcheck hsift]
      rfl

/-- Filtering comes to the same before and after selecting the columns that conditions are about. -/
theorem filter_select_comm (table : Table) (names : List String)
    (hnames : names ⊆ table.schema.names) :
    (∀ conditions : List String,
      (∀ text ∈ conditions, ∃ condition, Condition.parse text = .ok condition ∧
        condition.column ∈ names) →
      table.filterThenSelect conditions names = table.selectThenFilter names conditions) ∧
    (∀ (before after : List String) (text : String) (condition : Condition),
      (∀ text ∈ before, ∃ condition, Condition.parse text = .ok condition ∧
        condition.column ∈ names) →
      Condition.parse text = .ok condition → condition.column ∉ names →
      table.selectThenFilter names (before ++ text :: after) =
        .error (.filter (.unknownColumn condition.column))) := by
  have hn : ∀ name ∈ names, table.schema.hasColumn name = true :=
    fun name hm => Schema.hasColumn_iff.mpr (hnames hm)
  have hselect := table.select_eq_ok names hn
  constructor
  · intro conditions hc
    obtain ⟨predicates, hb, hm, hb'⟩ := Filter.build_pick hn hc
    have hfilter := table.filter_picked hm fun _ => Schema.lt_of_mem_positions
    rw [filterThenSelect, selectThenFilter, hb, hselect]
    simp only [Except.mapError, bind, Except.bind]
    rw [show Filter.build (table.picked (names.filterMap table.schema.position?)).schema conditions =
      _ from hb']
    simp only [hfilter]
    cases hf : table.filter predicates with
    | error e => rfl
    | ok kept =>
      -- filtering keeps the columns, so the names are found in the filtered table as in the whole one
      have hs : kept.schema = table.schema := schema_of_filter hf
      simp only [kept.select_eq_ok names (hs ▸ hn), hs]
      rfl
  · intro before after text condition hb hp hm
    rw [selectThenFilter, hselect]
    simp only [Except.mapError, bind, Except.bind]
    rw [show Filter.build (table.picked (names.filterMap table.schema.position?)).schema
      (before ++ text :: after) = _ from Filter.build_pick_eq_error hn hb hp hm]

/-- Two columns are named "size", and some cells are not what the columns declare. -/
def crates : Table where
  schema := [⟨"size", .int64⟩, ⟨"mark", .other⟩, ⟨"size", .string⟩]
  rows := [[.int64 4, .string "x", .null], [.int64 1, .boolean true, .int64 9],
    [.string "4", .string "x", .string "s"]]
  rectangular := by decide

theorem filter_select_comm_crates :
    let names := ["mark", "size", "mark"]
    let conditions := ["mark == x", "size >= 2"]
    names ⊆ crates.schema.names ∧
    ((∀ text ∈ conditions, ∃ condition, Condition.parse text = .ok condition ∧
        condition.column ∈ names) ∧
      crates.filterThenSelect conditions names = crates.selectThenFilter names conditions) ∧
    ((∀ text ∈ ["mark == x"], ∃ condition, Condition.parse text = .ok condition ∧
        condition.column ∈ ["mark"]) ∧
      Condition.parse "size >= 2" = .ok ⟨"size", .relation .ge, "2"⟩ ∧ "size" ∉ ["mark"] ∧
      crates.selectThenFilter ["mark"] ["mark == x", "size >= 2", "nothing"] =
        .error (.filter (.unknownColumn "size"))) := by
  intro names conditions
  have hmark : Condition.parse "mark == x" = .ok ⟨"mark", .relation .eq, "x"⟩ := by cbv
  have hsize : Condition.parse "size >= 2" = .ok ⟨"size", .relation .ge, "2"⟩ := by cbv
  have hnames : names ⊆ crates.schema.names := by decide
  have hconditions : ∀ text ∈ conditions, ∃ condition, Condition.parse text = .ok condition ∧
      condition.column ∈ names := by
    intro text hm
    rcases List.mem_cons.mp hm with rfl | hm
    · exact ⟨_, hmark, by decide⟩
    · cases List.mem_singleton.mp hm
      exact ⟨_, hsize, by decide⟩
  have hbefore : ∀ text ∈ ["mark == x"], ∃ condition, Condition.parse text = .ok condition ∧
      condition.column ∈ ["mark"] := by
    intro text hm
    cases List.mem_singleton.mp hm
    exact ⟨_, hmark, by decide⟩
  have hother : "size" ∉ ["mark"] := by decide
  refine ⟨hnames, ⟨hconditions, ?_⟩, hbefore, hsize, hother, ?_⟩
  · exact (filter_select_comm crates names hnames).1 conditions hconditions
  · exact (filter_select_comm crates ["mark"] (by decide)).2 ["mark == x"] ["nothing"] "size >= 2" _
      hbefore hsize hother

end Table

end TableScope
