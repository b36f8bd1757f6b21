import Mathlib.Data.List.DropRight
import TableScope.Proofs.Filter.Building
import TableScope.Proofs.Table.Operations

/-! # Runs of operations

A table is worked on in steps, each of which may fail and then leaves the table as it was. What a step
does is said here once more in terms of a schema and a list of rows alone (`Step.onLists`), with the
errors that it gives and the order in which it looks for them. `run_eq_lists` is the main statement:
after any steps the table is what the lists say, its rows are as wide as its schema, and the next step
is the one on lists again.
-/
set_option autoImplicit false

namespace TableScope

inductive Step
  | select (names : List String)
  | filter (predicates : Filter)
  | head (count : Nat)
  | tail (count : Nat)

namespace Step

/-- What a step makes of a schema and rows. -/
def onLists (schema : Schema) (rows : List Row) : Step → Except TableError (Schema × List Row)
  | select names =>
    match names.find? fun name => decide (name ∉ schema.names) with
    | some name => .error (.unknownColumn name)
    | none =>
      let positions := names.map schema.names.idxOf
      .ok (pick schema positions, rows.map fun row => pick row positions)
  | filter predicates =>
    match predicates.findSome? fun p => errorOf? (p.checkSchema schema) with
    | some e => .error (.evaluation e)
    | none =>
      match rows.findSome? fun row => predicates.findSome? fun p => errorOf? (p.evaluate row) with
      | some e => .error (.evaluation e)
      | none => .ok (schema, rows.filter fun row => predicates.all fun p => p.holds row)
  | head count => .ok (schema, rows.take count)
  | tail count => .ok (schema, rows.rtake count)

/-- The schema and rows after a step; those before it if the step fails. -/
def advance (listed : Schema × List Row) (step : Step) : Schema × List Row :=
  match step.onLists listed.1 listed.2 with
  | .ok next => next
  | .error _ => listed

end Step

/-! ## Names -/

namespace Schema

variable {schema : Schema}

theorem position?_eq_idxOf {name : String} (h : name ∈ schema.names) :
    schema.position? name = some (schema.names.idxOf name) := by
  induction schema with
  | nil => cases h
  | cons column others ih =>
    rw [position?, List.findIdx?_cons, names, List.map_cons]
    by_cases hc : column.name = name
    · rw [hc, beq_self_eq_true, if_pos rfl, List.idxOf_cons_self]
    · have ho : name ∈ names others := (List.mem_cons.mp h).resolve_left (Ne.symm hc)
      have hrest := ih ho
      rw [position?] at hrest
      rw [beq_false_of_ne hc, List.idxOf_cons_ne _ hc, hrest]
      rfl

theorem filterMap_position? {asked : List String} (h : ∀ name ∈ asked, name ∈ schema.names) :
    asked.filterMap schema.position? = asked.map schema.names.idxOf := by
  rw [← List.filterMap_eq_map]
  apply List.filterMap_congr
  intro name hm
  exact position?_eq_idxOf (h name hm)

theorem positions_eq_error {asked : List String} {name : String}
    (h : asked.find? (fun name => decide (name ∉ schema.names)) = some name) :
    schema.positions asked = .error (.unknownColumn name) := by
  induction asked with
  | nil => cases h
  | cons first others ih =>
    by_cases hf : first ∈ schema.names
    · rw [List.find?_cons_of_neg (by simpa using hf)] at h
      rw [positions, position?_eq_idxOf hf]
      simp only [ih h]
      rfl
    · rw [List.find?_cons_of_pos (by simpa using hf)] at h
      obtain rfl : first = name := by simpa using h
      have hn : schema.position? first = none := by
        rw [← Option.not_isSome_iff_eq_none]
        exact fun hs => hf (hasColumn_iff.mp hs)
      rw [positions, hn]

end Schema

/-! ## Errors of rows -/

namespace Filter

theorem evaluate_eq (predicates : Filter) (row : Row) :
    predicates.evaluate row =
      match predicates.findSome? fun p => errorOf? (p.evaluate row) with
      | some e => .error e
      | none => .ok (predicates.all fun p => p.holds row) := by
  induction predicates with
  | nil => rfl
  | cons p others ih =>
    rw [evaluate, ih, List.findSome?_cons, List.all_cons, Predicate.holds]
    cases p.evaluate row with
    | error e => rfl
    | ok holds =>
      generalize (others.findSome? fun p => errorOf? (p.evaluate row)) = error
      cases error <;> rfl

/-- Rows are evaluated in order, and each by the predicates in order, up to the first error. -/
theorem sift_eq (predicates : Filter) (rows : List Row) :
    predicates.sift rows =
      match rows.findSome? fun row => predicates.findSome? fun p => errorOf? (p.evaluate row) with
      | some e => .error e
      | none => .ok (rows.filter fun row => predicates.all fun p => p.holds row) := by
  induction rows with
  | nil => rfl
  | cons row rows ih =>
    rw [sift, ih, evaluate_eq, List.findSome?_cons, List.filter_cons]
    cases predicates.findSome? fun p => errorOf? (p.evaluate row) with
    | some e => rfl
    | none =>
      generalize (rows.findSome? fun row =>
        predicates.findSome? fun p => errorOf? (p.evaluate row)) = error
      cases error with
      | some e => rfl
      | none => cases predicates.all fun p => p.holds row <;> rfl

end Filter

/-! ## Steps -/

namespace Table

def lists (table : Table) : Schema × List Row := (table.schema, table.rows)

def apply (table : Table) : Step → Except TableError Table
  | .select names => table.select names
  | .filter predicates => table.filter predicates
  | .head count => table.head count
  | .tail count => table.tail count

def advance (table : Table) (step : Step) : Table :=
  match table.apply step with
  | .ok next => next
  | .error _ => table

def run (table : Table) (steps : List Step) : Table := steps.foldl advance table

variable (table : Table)

theorem select_eq_error {names : List String} {name : String}
    (h : names.find? (fun name => decide (name ∉ table.schema.names)) = some name) :
    table.select names = .error (.unknownColumn name) := by
  rw [select, Schema.positions_eq_error h]
  rfl

/-- A filter without predicates may be run over the rows like any other. -/
theorem filter_eq_collect (predicates : Filter) :
    table.filter predicates = ((Cursor.scan table).filter predicates).collect := by
  cases predicates with
  | nil =>
    rw [table.collect_filter rfl, Filter.sift_nil]
    exact (ofRows_of_rectangular table.schema table.rows table.rectangular).symm
  | cons p others => rfl

theorem apply_eq_lists (step : Step) :
    (table.apply step).map lists = step.onLists table.schema table.rows := by
  cases step with
  | select names =>
    rw [apply, Step.onLists]
    cases hf : names.find? fun name => decide (name ∉ table.schema.names) with
    | some name =>
      rw [table.select_eq_error hf]
      rfl
    | none =>
      have hn : ∀ name ∈ names, name ∈ table.schema.names := by simpa using hf
      rw [table.select_eq_ok names fun name hm => Schema.hasColumn_iff.mpr (hn name hm),
        Schema.filterMap_position? hn]
      rfl
  | filter predicates =>
    rw [apply, Step.onLists]
    have hc := predicates.checkSchema_eq table.schema
    cases hp : predicates.findSome? fun p => errorOf? (p.checkSchema table.schema) with
    | some e =>
      rw [hp] at hc
      rw [table.filter_eq_error hc]
      rfl
    | none =>
      rw [hp] at hc
      have hs := predicates.sift_eq table.rows
      cases hr : table.rows.findSome? fun row =>
          predicates.findSome? fun p => errorOf? (p.evaluate row) with
      | some e =>
        rw [hr] at hs
        rw [table.filter_of_sift_eq_error hc hs]
        rfl
      | none =>
        rw [hr] at hs
        rw [table.filter_of_sift_eq_ok hc hs]
        rfl
  | head count =>
    rw [apply, table.head_eq_ok count]
    rfl
  | tail count =>
    rw [apply, table.tail_eq_ok count]
    rfl

theorem lists_advance (step : Step) : (table.advance step).lists = Step.advance table.lists step := by
  have h := table.apply_eq_lists step
  rw [advance, Step.advance]
  cases ha : table.apply step with
  | ok next =>
    rw [ha] at h
    rw [show step.onLists table.lists.1 table.lists.2 = .ok next.lists from h.symm]
  | error e =>
    rw [ha] at h
    rw [show step.onLists table.lists.1 table.lists.2 = .error e from h.symm]

theorem lists_run (steps : List Step) :
    (table.run steps).lists = steps.foldl Step.advance table.lists := by
  induction steps generalizing table with
  | nil => rfl
  | cons step steps ih =>
    rw [run, List.foldl_cons, List.foldl_cons, ← lists_advance]
    exact ih (table.advance step)

theorem lists_of_ofRows {schema : Schema} {rows : List Row} {table : Table}
    (h : ofRows schema rows = .ok table) : table.lists = (schema, rows) := by
  unfold ofRows at h
  split at h
  · cases h
    rfl
  · cases h

/-- After any steps a table is what the lists say, and is as sound as it was at first. -/
theorem run_eq_lists (schema : Schema) (rows : List Row) (table : Table)
    (h : ofRows schema rows = .ok table) (steps : List Step) :
    let reached := steps.foldl Step.advance (schema, rows)
    (table.run steps).lists = reached ∧
      (∀ row ∈ reached.2, row.length = reached.1.length) ∧
      (∀ step, ((table.run steps).apply step).map lists = step.onLists reached.1 reached.2) ∧
      (∀ predicates, (table.run steps).filter predicates =
        ((Cursor.scan (table.run steps)).filter predicates).collect) := by
  intro reached
  have hr : (table.run steps).lists = reached := by rw [lists_run, lists_of_ofRows h]
  refine ⟨hr, ?_, ?_, ?_⟩
  · rw [← hr]
    exact (table.run steps).rectangular
  · intro step
    rw [← hr]
    exact (table.run steps).apply_eq_lists step
  · exact fun predicates => (table.run steps).filter_eq_collect predicates

/-- The third row is not of the declared types: "count" comes twice and the second holds texts. -/
def stock : Schema × List Row :=
  ([⟨"count", .int64⟩, ⟨"part", .string⟩, ⟨"count", .string⟩],
    [[.int64 7, .string "bolt", .null], [.int64 2, .string "nut", .string "x"],
      [.string "9", .null, .null]])

theorem run_eq_lists_stock :
    let atLeast : Predicate := ⟨"count", 0, .relation .ge, .integer 3⟩
    let steps : List Step :=
      [.select ["count", "size"], .filter [atLeast], .head 2, .filter [], .filter [atLeast],
        .select ["part", "count", "part"], .tail 5]
    ∃ table, ofRows stock.1 stock.2 = .ok table ∧
      (table.run steps).lists =
        ([⟨"part", .string⟩, ⟨"count", .int64⟩, ⟨"part", .string⟩],
          [[.string "bolt", .int64 7, .string "bolt"]]) ∧
      (table.apply (.select ["count", "size"])).map lists = .error (.unknownColumn "size") ∧
      (table.apply (.filter [atLeast])).map lists =
        .error (.evaluation (.typeMismatch "count" (.relation .ge) .string (.integer 3))) := by
  intro atLeast steps
  have hrows : ∀ row ∈ stock.2, row.length = stock.1.length := by decide
  have htable := ofRows_of_rectangular stock.1 stock.2 hrows
  refine ⟨_, htable, ?_, ?_, ?_⟩
  · exact (run_eq_lists _ _ _ htable steps).1.trans rfl
  · exact ((run_eq_lists _ _ _ htable []).2.2.1 (.select ["count", "size"])).trans rfl
  · exact ((run_eq_lists _ _ _ htable []).2.2.1 (.filter [atLeast])).trans rfl

end Table

end TableScope
