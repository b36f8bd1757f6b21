import TableScope.Proofs.Cursor.Calls

/-! # Cursors over the scan of a table

A cursor starts out as the scan of a table, and is then called and covered with layers in any order:
a layer may be put on a cursor that is started and half consumed, or that failed to start. Main
statements, both about every such run:

* `run_streams`: the cursor answers like a `session` over its events, and the events of a new layer are
  a function of the events that the cursor below it has left;
* `run_protocol`: what starting needs, when it is refused and why, and that it moves no layer.
-/
set_option autoImplicit false

namespace TableScope

inductive Action
  | call (call : Call)
  | filter (predicates : Filter)
  | project (positions : List Nat)
  | limit (count offset : Nat)

namespace Cursor

def started (cursor : Cursor) : Bool := cursor.plan.started cursor.state

def events (cursor : Cursor) : List Event := cursor.plan.events cursor.state

def progress (cursor : Cursor) : List Row × List (Nat × Nat) := cursor.plan.progress cursor.state

def after (cursor : Cursor) (calls : List Call) : Cursor :=
  ⟨cursor.plan, cursor.plan.after cursor.state calls⟩

def answers (cursor : Cursor) (calls : List Call) : List Answer :=
  cursor.plan.answers cursor.state calls

def act (cursor : Cursor) : Action → Cursor
  | .call call => cursor.after [call]
  | .filter predicates => cursor.filter predicates
  | .project positions => cursor.project positions
  | .limit count offset => cursor.limit count offset

def run (cursor : Cursor) (actions : List Action) : Cursor := actions.foldl act cursor

def Sound (table : Table) (cursor : Cursor) : Prop := cursor.plan.Sound table cursor.state

variable {table : Table} {cursor : Cursor}

theorem start_eq {state : cursor.plan.State} {result : Except TableError Unit}
    (h : cursor.plan.start cursor.state = (state, result)) :
    cursor.start = (⟨cursor.plan, state⟩, result) := by
  rw [Cursor.start, h]

theorem pull_eq {state : cursor.plan.State} {result : Pull}
    (h : cursor.plan.pull cursor.state = (state, result)) :
    cursor.pull = (⟨cursor.plan, state⟩, result) := by
  rw [Cursor.pull, h]

theorem sound_scan (table : Table) : (scan table).Sound table := ⟨rfl, fun _ h => h⟩

theorem Sound.filter (h : cursor.Sound table) (predicates : Filter) :
    (cursor.filter predicates).Sound table := ⟨h, nofun⟩

theorem Sound.project (h : cursor.Sound table) (positions : List Nat) :
    (cursor.project positions).Sound table := ⟨h, nofun⟩

theorem Sound.limit (h : cursor.Sound table) (count offset : Nat) :
    (cursor.limit count offset).Sound table := ⟨h, nofun, fun _ => ⟨rfl, rfl⟩⟩

theorem Sound.after (h : cursor.Sound table) (calls : List Call) :
    (cursor.after calls).Sound table := Plan.Sound.after h calls

theorem Sound.act (h : cursor.Sound table) (action : Action) : (cursor.act action).Sound table := by
  cases action with
  | call call => exact h.after [call]
  | filter predicates => exact h.filter predicates
  | project positions => exact h.project positions
  | limit count offset => exact h.limit count offset

theorem Sound.run (h : cursor.Sound table) (actions : List Action) :
    (cursor.run actions).Sound table := by
  induction actions generalizing cursor with
  | nil => exact h
  | cons action actions ih => exact ih (h.act action)

/-! ## Events -/

/-- How a cursor and the layers that can be put on it answer. -/
structure Streams (cursor : Cursor) : Prop where
  answers : ∀ calls,
    cursor.answers calls = session cursor.start.2 cursor.started cursor.events calls
  fresh : ∀ predicates positions count offset, (cursor.filter predicates).started = false ∧
    (cursor.project positions).started = false ∧ (cursor.limit count offset).started = false
  filter : ∀ predicates,
    (cursor.filter predicates).events = cursor.events.filterMap (Event.kept predicates)
  project : ∀ positions,
    (cursor.project positions).events = cursor.events.map (Event.picked positions)
  inRange : ∀ positions, (cursor.project positions).start.2 = .ok () →
    ∀ row, .ok row ∈ cursor.events → Row.project row positions = .ok (pick row positions)
  limit : ∀ count offset,
    (cursor.limit count offset).events = Event.window offset count cursor.events
  /-- With all its rows handed out, and so from the outset if it has none to hand out, a limit pulls
  nothing from below. -/
  spent : ∀ count offset calls,
    count ≤ ((cursor.limit count offset).answers calls).countP Answer.isRow →
    ((cursor.limit count offset).after calls).pull.1 = (cursor.limit count offset).after calls

theorem Sound.project_row (h : cursor.Sound table) {positions : List Nat}
    (hs : (cursor.project positions).start.2 = .ok ()) {row : Row} (hr : .ok row ∈ cursor.events) :
    Row.project row positions = .ok (pick row positions) := by
  have ha := (Plan.Sound.start_eq_ok_iff (h.project positions)).mp hs
  have hw : row.length = (cursor.plan.shape table.schema).length := Plan.Sound.width h row hr
  apply Row.project_eq_ok
  rw [hw]
  exact ha.2

theorem Sound.limit_spent (h : cursor.Sound table) (count offset : Nat) (calls : List Call)
    (hc : count ≤ ((cursor.limit count offset).answers calls).countP Answer.isRow) :
    ((cursor.limit count offset).after calls).pull.1 = (cursor.limit count offset).after calls := by
  have hr := Plan.returned_after (h.limit count offset) calls
  have hle : count ≤ ((cursor.limit count offset).after calls).state.returned := by
    rw [show ((cursor.limit count offset).after calls).state.returned = _ from hr]
    exact Nat.le_trans hc (Nat.le_add_left _ _)
  have hp := Plan.limit_pull_of_le hle
  exact congrArg (Cursor.mk (.limit cursor.plan count offset)) hp

/-- Every cursor over the scan of a table, whatever was done with it, hands out its events in order. -/
theorem run_streams (table : Table) (actions : List Action) :
    (scan table).events = table.rows.map .ok ∧ ((scan table).run actions).Streams := by
  have h : ((scan table).run actions).Sound table := (sound_scan table).run actions
  refine ⟨rfl, ?_⟩
  constructor
  · exact fun calls => Plan.Sound.answers_eq h calls
  · exact fun _ _ _ _ => ⟨rfl, rfl, rfl⟩
  · exact fun predicates => rfl
  · exact fun positions => rfl
  · exact fun positions hs row hr => h.project_row hs hr
  · exact fun count offset => rfl
  · exact fun count offset calls hc => h.limit_spent count offset calls hc

/-! ## Starting -/

/-- How a cursor over the scan of a table is started. -/
structure Protocol (table : Table) (cursor : Cursor) : Prop where
  fresh : ∀ predicates positions count offset, (cursor.filter predicates).started = false ∧
    (cursor.project positions).started = false ∧ (cursor.limit count offset).started = false
  /-- A cursor is started by a start that succeeds and by nothing else. -/
  history : ∀ calls, (cursor.after calls).started = true ↔
    cursor.started = true ∨ .started (.ok ()) ∈ cursor.answers calls
  waiting : cursor.started = false → cursor.pull = (cursor, .failed .notStarted)
  settled : cursor.started = true → cursor.start = (cursor, .ok ())
  still : cursor.start.1.progress = cursor.progress ∧ cursor.start.1.events = cursor.events
  outcome : ∀ calls, (cursor.after calls).start.2 = cursor.start.2
  applicable : cursor.start.2 = .ok () ↔ cursor.plan.Applicable table.schema
  refused : ∀ e, cursor.start.2 = .error e ↔ cursor.plan.Refused table.schema e
  schema : cursor.started = true →
    table.schema.project (cursor.plan.composed table.schema.length) = .ok cursor.schema
  width : cursor.started = true → ∀ calls row, .pulled (.row row) ∈ cursor.answers calls →
    row.length = (cursor.plan.composed table.schema.length).length ∧
      row.length = cursor.schema.length

theorem Sound.schema_started (h : cursor.Sound table) (hs : cursor.started = true) :
    table.schema.project (cursor.plan.composed table.schema.length) = .ok cursor.schema := by
  have ha : cursor.plan.Applicable table.schema := Plan.Sound.applicable h hs
  have hschema : cursor.schema = cursor.plan.shape table.schema := Plan.Sound.schema_eq h hs
  rw [Schema.project_eq_ok _ _ ha.composed_lt.2, hschema, ha.shape_eq]

theorem Sound.width_pulled (h : cursor.Sound table) (hs : cursor.started = true) {calls : List Call}
    {row : Row} (hr : .pulled (.row row) ∈ cursor.answers calls) :
    row.length = (cursor.plan.composed table.schema.length).length ∧
      row.length = cursor.schema.length := by
  have ha : cursor.plan.Applicable table.schema := Plan.Sound.applicable h hs
  have hschema : cursor.schema = cursor.plan.shape table.schema := Plan.Sound.schema_eq h hs
  have hw : row.length = (cursor.plan.shape table.schema).length :=
    Plan.Sound.width h row (Plan.Sound.mem_events_of_pulled h hr)
  exact ⟨hw.trans ha.composed_lt.1.symm, by rw [hschema]; exact hw⟩

/-- Every cursor over the scan of a table, whatever was done with it, keeps the protocol of starting. -/
theorem run_protocol (table : Table) (actions : List Action) :
    (scan table).started = false ∧ ((scan table).run actions).Protocol table := by
  have h : ((scan table).run actions).Sound table := (sound_scan table).run actions
  refine ⟨rfl, ?_⟩
  generalize (scan table).run actions = cursor at h
  have hstill : cursor.start.1.progress = cursor.progress := Plan.Sound.progress_start h
  constructor
  · exact fun _ _ _ _ => ⟨rfl, rfl, rfl⟩
  · exact fun calls => Plan.Sound.started_after h calls
  · exact fun hs => pull_eq (Plan.pull_of_not_started hs)
  · exact fun hs => start_eq (Plan.start_of_started hs)
  · exact ⟨hstill, cursor.plan.events_congr hstill⟩
  · exact fun calls => Plan.Sound.outcome_after h calls
  · exact Plan.Sound.start_eq_ok_iff h
  · exact fun e => Plan.Sound.start_eq_error_iff h e
  · exact h.schema_started
  · exact fun hs calls row hr => h.width_pulled hs hr

end Cursor

end TableScope
