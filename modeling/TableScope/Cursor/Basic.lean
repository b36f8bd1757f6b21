import TableScope.Table.Basic

/-! # Cursors

A cursor hands out rows one at a time. Its `Plan` is a stack of layers over the scan of a table: a
filter keeps rows, a projection rearranges their cells, a limit skips some rows and then hands out a
number of them. Each layer has a state of its own on top of the state of the layer below.

A layer has to be started before it hands out rows, and starting it starts the layers below. A layer
that cannot be started keeps what its start has done so far: the layers below it stay started, and a
filter already shows the schema it was checked against.
-/
set_option autoImplicit false

namespace TableScope

/-- The layers of a cursor, the outermost first. -/
inductive Plan
  | scan
  | filter (below : Plan) (filter : Filter)
  | project (below : Plan) (positions : List Nat)
  | limit (below : Plan) (count offset : Nat)

inductive Pull
  | row (row : Row)
  | done
  | failed (error : TableError)
deriving DecidableEq

/-- The state of a scan: the rows that are left. -/
structure ScanState where
  schema : Schema
  rows : List Row
  started : Bool := false

/-- The state of a layer over a state of the layers below. -/
structure LayerState (σ : Type) where
  below : σ
  schema : Schema := []
  started : Bool := false

/-- The state of a limit: also how many rows it has skipped and returned. -/
structure LimitState (σ : Type) extends LayerState σ where
  skipped : Nat := 0
  returned : Nat := 0

namespace Plan

def State : Plan → Type
  | scan => ScanState
  | filter below _ => LayerState below.State
  | project below _ => LayerState below.State
  | limit below _ _ => LimitState below.State

/-- The schema that the outermost layer shows; layers over the scan have none before they are
started. -/
def schema : (plan : Plan) → plan.State → Schema
  | scan, s => s.schema
  | filter _ _, s => s.schema
  | project _ _, s => s.schema
  | limit _ _ _, s => s.schema

/-- The rows that the scan has left. No cursor hands out more. -/
def rowsLeft : (plan : Plan) → plan.State → Nat
  | scan, s => s.rows.length
  | filter below _, s => below.rowsLeft s.below
  | project below _, s => below.rowsLeft s.below
  | limit below _ _, s => below.rowsLeft s.below

/-! ## Starting -/

/-- Starts the layers, the innermost first. A started layer is left as it is. -/
def start : (plan : Plan) → plan.State → plan.State × Except TableError Unit
  | scan, s => ({ s with started := true }, .ok ())
  | filter below predicates, s =>
    if s.started then (s, .ok ())
    else match below.start s.below with
      | (below', .error e) => ({ s with below := below' }, .error e)
      | (below', .ok ()) =>
        let schema := below.schema below'
        match predicates.checkSchema schema with
        | .ok () => (⟨below', schema, true⟩, .ok ())
        | .error e => (⟨below', schema, false⟩, .error (.evaluation e))
  | project below positions, s =>
    if s.started then (s, .ok ())
    else match below.start s.below with
      | (below', .error e) => ({ s with below := below' }, .error e)
      | (below', .ok ()) =>
        match (below.schema below').project positions with
        | .ok schema => (⟨below', schema, true⟩, .ok ())
        | .error e => ({ s with below := below' }, .error e)
  | limit below _ _, s =>
    if s.started then (s, .ok ())
    else match below.start s.below with
      | (below', .error e) => ({ s with below := below' }, .error e)
      | (below', .ok ()) =>
        ({ below := below', schema := below.schema below', started := true }, .ok ())

/-! ## Pulling rows -/

/-- Pulls until a row is kept. `left` bounds the rows that are left: with none left, whatever comes
is no row. -/
def seek {σ : Type} (next : σ → σ × Pull) (keep : Row → Except EvaluationError Bool) :
    (left : Nat) → σ → σ × Pull
  | 0, s => next s
  | left + 1, s =>
    match next s with
    | (s', .row row) =>
      match keep row with
      | .ok true => (s', .row row)
      | .ok false => seek next keep left s'
      | .error e => (s', .failed (.evaluation e))
    | (s', pull) => (s', pull)

/-- Pulls and drops some rows: the number dropped, and what came instead of a row. -/
def skip {σ : Type} (next : σ → σ × Pull) : (rows : Nat) → σ → σ × Nat × Option Pull
  | 0, s => (s, 0, none)
  | rows + 1, s =>
    match next s with
    | (s', .row _) =>
      let (s'', dropped, stop) := skip next rows s'
      (s'', dropped + 1, stop)
    | (s', pull) => (s', 0, some pull)

def pull : (plan : Plan) → plan.State → plan.State × Pull
  | scan, s =>
    if !s.started then (s, .failed .notStarted)
    else match s.rows with
      | [] => (s, .done)
      | row :: rows => ({ s with rows }, .row row)
  | filter below predicates, s =>
    if !s.started then (s, .failed .notStarted)
    else
      let (below', result) := seek below.pull predicates.evaluate (below.rowsLeft s.below) s.below
      ({ s with below := below' }, result)
  | project below positions, s =>
    if !s.started then (s, .failed .notStarted)
    else match below.pull s.below with
      | (below', .row row) =>
        ({ s with below := below' },
          match Row.project row positions with
          | .ok row => .row row
          | .error e => .failed e)
      | (below', result) => ({ s with below := below' }, result)
  | limit below count offset, s =>
    if !s.started then (s, .failed .notStarted)
    else if count ≤ s.returned then (s, .done)
    else match skip below.pull (offset - s.skipped) s.below with
      | (below', dropped, some stop) =>
        ({ s with below := below', skipped := s.skipped + dropped }, stop)
      | (below', dropped, none) =>
        let s := { s with skipped := s.skipped + dropped }
        match below.pull below' with
        | (below'', .row row) => ({ s with below := below'', returned := s.returned + 1 }, .row row)
        | (below'', result) => ({ s with below := below'' }, result)

/-- Pulls all rows, at most `left` and one more. -/
def drain {σ : Type} (next : σ → σ × Pull) : (left : Nat) → σ → Except TableError (List Row)
  | left, s =>
    match next s with
    | (_, .failed e) => .error e
    | (_, .done) => .ok []
    | (s', .row row) =>
      match left with
      | 0 => .ok [row]
      | left + 1 => do return row :: (← drain next left s')

end Plan

structure Cursor where
  plan : Plan
  state : plan.State

namespace Cursor

def scan (table : Table) : Cursor := ⟨.scan, ⟨table.schema, table.rows, false⟩⟩

def filter (cursor : Cursor) (filter : Filter) : Cursor :=
  ⟨.filter cursor.plan filter, ({ below := cursor.state } : LayerState _)⟩

def project (cursor : Cursor) (positions : List Nat) : Cursor :=
  ⟨.project cursor.plan positions, ({ below := cursor.state } : LayerState _)⟩

/-- At most `count` rows after the first `offset`. -/
def limit (cursor : Cursor) (count : Nat) (offset : Nat := 0) : Cursor :=
  ⟨.limit cursor.plan count offset, ({ below := cursor.state } : LimitState _)⟩

def schema (cursor : Cursor) : Schema := cursor.plan.schema cursor.state

def start (cursor : Cursor) : Cursor × Except TableError Unit :=
  let (state, result) := cursor.plan.start cursor.state
  (⟨cursor.plan, state⟩, result)

def pull (cursor : Cursor) : Cursor × Pull :=
  let (state, result) := cursor.plan.pull cursor.state
  (⟨cursor.plan, state⟩, result)

/-- Starts a cursor and makes a table of all rows that it hands out. -/
def collect (cursor : Cursor) : Except TableError Table :=
  match cursor.start with
  | (_, .error e) => .error e
  | (started, .ok ()) => do
    let rows ← Plan.drain started.plan.pull (started.plan.rowsLeft started.state) started.state
    Table.ofRows started.schema rows

end Cursor

end TableScope
