import TableScope.Proofs.Cursor.Stream

/-! # Layers of a cursor

The plan of a cursor alone decides whether it can be started (`Plan.Applicable`), which error stands in
the way (`Plan.Refused`) and what schema it shows then (`Plan.shape`). The state decides how far each
layer is (`Plan.progress`), and with it the events that are left (`Plan.events`). `Plan.Sound` is the
invariant of the states of a cursor over the scan of a table.

`Sound.starts` says all that a start can do, and `hands_events` that a started cursor hands out its
events; nothing after them opens `Plan.start` or `Plan.pull`.
-/
set_option autoImplicit false

namespace TableScope.Plan

/-! ## What the plan decides -/

/-- The schema that the outermost layer shows when it is started. -/
def shape (schema : Schema) : Plan → Schema
  | scan => schema
  | filter below _ => below.shape schema
  | project below positions => pick (below.shape schema) positions
  | limit below _ _ => below.shape schema

/-- The positions of the scan's columns that the outermost layer shows. -/
def composed (width : Nat) : Plan → List Nat
  | scan => List.range width
  | filter below _ => below.composed width
  | project below positions => pick (below.composed width) positions
  | limit below _ _ => below.composed width

/-- Every layer fits the schema that comes from below. -/
def Applicable (schema : Schema) : Plan → Prop
  | scan => True
  | filter below predicates =>
    below.Applicable schema ∧ predicates.checkSchema (below.shape schema) = .ok ()
  | project below positions =>
    below.Applicable schema ∧ ∀ position ∈ positions, position < (below.shape schema).length
  | limit below _ _ => below.Applicable schema

/-- The innermost layer that does not fit the schema from below, and the error that it gives. -/
inductive Refused (schema : Schema) : Plan → TableError → Prop
  | filter {below : Plan} {predicates : Filter} {e : EvaluationError} :
    below.Applicable schema → predicates.checkSchema (below.shape schema) = .error e →
    Refused schema (filter below predicates) (.evaluation e)
  | project {below : Plan} {positions : List Nat} {position : Nat} :
    below.Applicable schema →
    positions.find? (fun position => decide ((below.shape schema).length ≤ position)) =
      some position →
    Refused schema (project below positions) (.noColumn position (below.shape schema).length)
  | filterBelow {below : Plan} {predicates : Filter} {e : TableError} :
    Refused schema below e → Refused schema (filter below predicates) e
  | projectBelow {below : Plan} {positions : List Nat} {e : TableError} :
    Refused schema below e → Refused schema (project below positions) e
  | limitBelow {below : Plan} {count offset : Nat} {e : TableError} :
    Refused schema below e → Refused schema (limit below count offset) e

theorem Applicable.composed_lt {schema : Schema} {plan : Plan} (h : plan.Applicable schema) :
    (plan.composed schema.length).length = (plan.shape schema).length ∧
      ∀ position ∈ plan.composed schema.length, position < schema.length := by
  induction plan with
  | scan => exact ⟨List.length_range, fun position hp => List.mem_range.mp hp⟩
  | filter below predicates ih => exact ih h.1
  | project below positions ih =>
    obtain ⟨hl, hc⟩ := ih h.1
    refine ⟨length_pick_congr hl positions, ?_⟩
    intro position hp
    exact hc position (mem_of_mem_pick hp)
  | limit below count offset ih => exact ih h

theorem Applicable.shape_eq {schema : Schema} {plan : Plan} (h : plan.Applicable schema) :
    plan.shape schema = pick schema (plan.composed schema.length) := by
  induction plan with
  | scan => exact (pick_range schema).symm
  | filter below predicates ih => exact ih h.1
  | project below positions ih =>
    obtain ⟨-, hc⟩ := h.1.composed_lt
    rw [shape, composed, ih h.1, pick_pick schema _ _ hc]
  | limit below count offset ih => exact ih h

theorem Refused.not_applicable {schema : Schema} {plan : Plan} {e : TableError}
    (h : Refused schema plan e) : ¬ plan.Applicable schema := by
  induction h with
  | filter _ hc =>
    intro ha
    rw [ha.2] at hc
    cases hc
  | project _ hf =>
    intro ha
    have hlt := ha.2 _ (List.mem_of_find?_eq_some hf)
    have hle := List.find?_some hf
    simp only [decide_eq_true_eq] at hle
    omega
  | filterBelow _ ih => exact fun ha => ih ha.1
  | projectBelow _ ih => exact fun ha => ih ha.1
  | limitBelow _ ih => exact fun ha => ih ha

theorem Refused.unique {schema : Schema} {plan : Plan} {e e' : TableError}
    (h : Refused schema plan e) (h' : Refused schema plan e') : e = e' := by
  induction h with
  | filter ha hc =>
    cases h' with
    | filter _ hc' => rw [hc] at hc'; cases hc'; rfl
    | filterBelow h' => exact absurd ha h'.not_applicable
  | project ha hf =>
    cases h' with
    | project _ hf' => rw [hf] at hf'; cases hf'; rfl
    | projectBelow h' => exact absurd ha h'.not_applicable
  | filterBelow h ih =>
    cases h' with
    | filter ha _ => exact absurd ha h.not_applicable
    | filterBelow h' => exact ih h'
  | projectBelow h ih =>
    cases h' with
    | project ha _ => exact absurd ha h.not_applicable
    | projectBelow h' => exact ih h'
  | limitBelow _ ih =>
    cases h' with
    | limitBelow h' => exact ih h'

/-! ## What the state decides -/

def started : (plan : Plan) → plan.State → Bool
  | scan, s => s.started
  | filter _ _, s => s.started
  | project _ _, s => s.started
  | limit _ _ _, s => s.started

/-- The rows that the scan has left, and the counters of each limit from the outermost on. -/
def progress : (plan : Plan) → plan.State → List Row × List (Nat × Nat)
  | scan, s => (s.rows, [])
  | filter below _, s => below.progress s.below
  | project below _, s => below.progress s.below
  | limit below _ _, s =>
    ((below.progress s.below).1, (s.skipped, s.returned) :: (below.progress s.below).2)

def events : (plan : Plan) → plan.State → List Event
  | scan, s => s.rows.map .ok
  | filter below predicates, s => (below.events s.below).filterMap (Event.kept predicates)
  | project below positions, s => (below.events s.below).map (Event.picked positions)
  | limit below count offset, s =>
    Event.window (offset - s.skipped) (count - s.returned) (below.events s.below)

theorem events_congr (plan : Plan) {s t : plan.State} (h : plan.progress s = plan.progress t) :
    plan.events s = plan.events t := by
  induction plan with
  | scan => exact congrArg (fun p : List Row × List (Nat × Nat) => p.1.map Except.ok) h
  | filter below predicates ih => exact congrArg (List.filterMap (Event.kept predicates)) (ih h)
  | project below positions ih => exact congrArg (List.map (Event.picked positions)) (ih h)
  | limit below count offset ih =>
    obtain ⟨hrows, hcounters⟩ := Prod.ext_iff.mp h
    obtain ⟨hc, hbelow⟩ := List.cons_eq_cons.mp hcounters
    obtain ⟨hs, hr⟩ := Prod.ext_iff.mp hc
    have he := ih (Prod.ext hrows hbelow)
    simp only at hs hr
    rw [events, events, he, hs, hr]

theorem length_events_le (plan : Plan) (s : plan.State) :
    (plan.events s).length ≤ plan.rowsLeft s := by
  induction plan with
  | scan => exact Nat.le_of_eq (List.length_map _)
  | filter below predicates ih => exact Nat.le_trans (List.length_filterMap_le _ _) (ih s.below)
  | project below positions ih =>
    rw [events, List.length_map]
    exact ih s.below
  | limit below count offset ih =>
    exact Nat.le_trans (Event.length_window_le _ _ _) (ih s.below)

/-- What the layers of a cursor over the scan of a table know about each other: below a started layer
all are started, and it fits and shows the schema from below; a limit counts nothing before it is
started. -/
def Sound (table : Table) : (plan : Plan) → plan.State → Prop
  | scan, s => s.schema = table.schema ∧ s.rows ⊆ table.rows
  | filter below predicates, s =>
    below.Sound table s.below ∧
      (s.started = true → below.started s.below = true ∧ s.schema = below.shape table.schema ∧
        predicates.checkSchema (below.shape table.schema) = .ok ())
  | project below positions, s =>
    below.Sound table s.below ∧
      (s.started = true → below.started s.below = true ∧
        s.schema = pick (below.shape table.schema) positions ∧
        ∀ position ∈ positions, position < (below.shape table.schema).length)
  | limit below _ _, s =>
    below.Sound table s.below ∧
      (s.started = true → below.started s.below = true ∧ s.schema = below.shape table.schema) ∧
      (s.started = false → s.skipped = 0 ∧ s.returned = 0)

variable {table : Table}

theorem Sound.applicable {plan : Plan} {s : plan.State} (h : plan.Sound table s)
    (hs : plan.started s = true) : plan.Applicable table.schema := by
  induction plan with
  | scan => trivial
  | filter below predicates ih =>
    obtain ⟨hb, -, hc⟩ := h.2 hs
    exact ⟨ih h.1 hb, hc⟩
  | project below positions ih =>
    obtain ⟨hb, -, hp⟩ := h.2 hs
    exact ⟨ih h.1 hb, hp⟩
  | limit below count offset ih => exact ih h.1 (h.2.1 hs).1

theorem Sound.schema_eq {plan : Plan} {s : plan.State} (h : plan.Sound table s)
    (hs : plan.started s = true) : plan.schema s = plan.shape table.schema := by
  cases plan with
  | scan => exact h.1
  | filter below predicates => exact (h.2 hs).2.1
  | project below positions => exact (h.2 hs).2.1
  | limit below count offset => exact (h.2.1 hs).2

/-- A row that is left has one cell per column of the schema shown. -/
theorem Sound.width {plan : Plan} {s : plan.State} (h : plan.Sound table s) :
    ∀ row, .ok row ∈ plan.events s → row.length = (plan.shape table.schema).length := by
  induction plan with
  | scan =>
    intro row hr
    obtain ⟨row', hm, he⟩ := List.mem_map.mp hr
    cases he
    exact table.rectangular row (h.2 hm)
  | filter below predicates ih =>
    intro row hr
    obtain ⟨event, hm, he⟩ := List.mem_filterMap.mp hr
    rw [Event.eq_of_kept_eq_ok he] at hm
    exact ih h.1 row hm
  | project below positions ih =>
    intro row hr
    obtain ⟨event, hm, he⟩ := List.mem_map.mp hr
    cases event with
    | error e => cases he
    | ok row' =>
      cases he
      exact length_pick_congr (ih h.1 row' hm) positions
  | limit below count offset ih =>
    intro row hr
    exact ih h.1 row (Event.mem_of_mem_window hr)

/-! ## Starting -/

theorem start_of_started {plan : Plan} {s : plan.State} (hs : plan.started s = true) :
    plan.start s = (s, .ok ()) := by
  cases plan with
  | scan =>
    obtain ⟨schema, rows, started⟩ := s
    cases hs
    rfl
  | filter below predicates => exact if_pos hs
  | project below positions => exact if_pos hs
  | limit below count offset => exact if_pos hs

theorem not_started_of_start_error {plan : Plan} {s s' : plan.State} {e : TableError}
    (h : plan.start s = (s', .error e)) : plan.started s = false := by
  apply Bool.eq_false_iff.mpr
  intro hs
  rw [start_of_started hs] at h
  cases h

/-- All that a start can do: it succeeds and leaves the layers started, or it fails with the error of
the innermost layer that does not fit, and would fail again in the same way. No layer has moved. -/
inductive Starts (table : Table) (plan : Plan) (s : plan.State) : Prop
  | succeeds (s' : plan.State) (applicable : plan.Applicable table.schema)
    (result : plan.start s = (s', .ok ())) (sound : plan.Sound table s')
    (still : plan.progress s' = plan.progress s) (started : plan.started s' = true)
  | fails (s' : plan.State) (e : TableError) (refused : plan.Refused table.schema e)
    (result : plan.start s = (s', .error e)) (sound : plan.Sound table s')
    (still : plan.progress s' = plan.progress s) (unstarted : plan.started s' = false)
    (again : plan.start s' = (s', .error e))

theorem Starts.of_started {plan : Plan} {s : plan.State} (h : plan.Sound table s)
    (hs : plan.started s = true) : Starts table plan s :=
  .succeeds s (h.applicable hs) (start_of_started hs) h rfl hs

theorem Starts.filter {below : Plan} {predicates : Filter} {s : LayerState below.State}
    (hf : s.started = false) (h : Starts table below s.below) :
    Starts table (filter below predicates) s := by
  cases h with
  | succeeds b applicable result sound still started =>
    have hschema := sound.schema_eq started
    cases hc : predicates.checkSchema (below.shape table.schema) with
    | ok u =>
      refine .succeeds ⟨b, below.shape table.schema, true⟩ ⟨applicable, hc⟩ ?_ ⟨sound, ?_⟩ still rfl
      · simp [start, hf, result, hschema, hc]
      · exact fun _ => ⟨started, rfl, hc⟩
    | error e =>
      -- the layer below stays started, so a second start comes straight to the same check
      refine .fails ⟨b, below.shape table.schema, false⟩ (.evaluation e) (.filter applicable hc) ?_
        ⟨sound, by simp⟩ still rfl ?_
      · simp [start, hf, result, hschema, hc]
      · simp [start, start_of_started started, hschema, hc]
  | fails b e refused result sound still unstarted again =>
    refine .fails ⟨b, s.schema, false⟩ e (.filterBelow refused) ?_ ⟨sound, by simp⟩ still rfl ?_
    · simp [start, hf, result]
    · simp [start, again]

theorem Starts.project {below : Plan} {positions : List Nat} {s : LayerState below.State}
    (hf : s.started = false) (h : Starts table below s.below) :
    Starts table (project below positions) s := by
  cases h with
  | succeeds b applicable result sound still started =>
    have hschema := sound.schema_eq started
    cases hc : positions.find?
        (fun position => decide ((below.shape table.schema).length ≤ position)) with
    | none =>
      have hp : ∀ position ∈ positions, position < (below.shape table.schema).length := by
        intro position hm
        have hn := List.find?_eq_none.mp hc position hm
        exact Nat.lt_of_not_le (by simpa using hn)
      have he := (below.shape table.schema).project_eq_ok positions hp
      refine .succeeds ⟨b, pick (below.shape table.schema) positions, true⟩ ⟨applicable, hp⟩ ?_
        ⟨sound, ?_⟩ still rfl
      · simp [start, hf, result, hschema, he]
      · exact fun _ => ⟨started, rfl, hp⟩
    | some position =>
      have he := (below.shape table.schema).project_eq_error positions position hc
      refine .fails ⟨b, s.schema, false⟩ _ (.project applicable hc) ?_ ⟨sound, by simp⟩ still rfl ?_
      · simp [start, hf, result, hschema, he]
      · simp [start, start_of_started started, hschema, he]
  | fails b e refused result sound still unstarted again =>
    refine .fails ⟨b, s.schema, false⟩ e (.projectBelow refused) ?_ ⟨sound, by simp⟩ still rfl ?_
    · simp [start, hf, result]
    · simp [start, again]

theorem Starts.limit {below : Plan} {count offset : Nat} {s : LimitState below.State}
    (hf : s.started = false) (hcounters : s.skipped = 0 ∧ s.returned = 0)
    (h : Starts table below s.below) : Starts table (limit below count offset) s := by
  obtain ⟨hskipped, hreturned⟩ := hcounters
  cases h with
  | succeeds b applicable result sound still started =>
    have hschema := sound.schema_eq started
    refine .succeeds ⟨⟨b, below.shape table.schema, true⟩, 0, 0⟩ applicable ?_
      ⟨sound, fun _ => ⟨started, rfl⟩, by simp⟩ ?_ rfl
    · simp [start, hf, result, hschema]
    · simp [progress, still, hskipped, hreturned]
  | fails b e refused result sound still unstarted again =>
    refine .fails ⟨⟨b, s.schema, false⟩, 0, 0⟩ e (.limitBelow refused) ?_
      ⟨sound, by simp, by simp⟩ ?_ rfl ?_
    · simp [start, hf, result, hskipped, hreturned]
    · simp [progress, still, hskipped, hreturned]
    · simp [start, again]

theorem Sound.starts {plan : Plan} {s : plan.State} (h : plan.Sound table s) :
    Starts table plan s := by
  induction plan with
  | scan => exact .succeeds _ trivial rfl h rfl rfl
  | filter below predicates ih =>
    by_cases hs : (filter below predicates).started s = true
    · exact .of_started h hs
    · exact .filter (Bool.eq_false_iff.mpr hs) (ih h.1)
  | project below positions ih =>
    by_cases hs : (project below positions).started s = true
    · exact .of_started h hs
    · exact .project (Bool.eq_false_iff.mpr hs) (ih h.1)
  | limit below count offset ih =>
    by_cases hs : (limit below count offset).started s = true
    · exact .of_started h hs
    · have hf : s.started = false := Bool.eq_false_iff.mpr hs
      exact .limit hf (h.2.2 hf) (ih h.1)

theorem Sound.start_eq_ok_iff {plan : Plan} {s : plan.State} (h : plan.Sound table s) :
    (plan.start s).2 = .ok () ↔ plan.Applicable table.schema := by
  cases h.starts with
  | succeeds s' applicable result sound still started => simp [result, applicable]
  | fails s' e refused result sound still unstarted again => simp [result, refused.not_applicable]

theorem Sound.start_eq_error_iff {plan : Plan} {s : plan.State} (h : plan.Sound table s)
    (e : TableError) : (plan.start s).2 = .error e ↔ plan.Refused table.schema e := by
  cases h.starts with
  | succeeds s' applicable result sound still started =>
    rw [result]
    exact ⟨nofun, fun hr => absurd applicable hr.not_applicable⟩
  | fails s' e' refused result sound still unstarted again =>
    rw [result]
    constructor
    · intro he
      cases he
      exact refused
    · intro hr
      rw [refused.unique hr]

/-! ## Pulling -/

theorem pull_of_not_started {plan : Plan} {s : plan.State} (hs : plan.started s = false) :
    plan.pull s = (s, .failed .notStarted) := by
  have hn : (!plan.started s) = true := by rw [hs]; rfl
  cases plan with
  | scan => exact if_pos hn
  | filter below predicates => exact if_pos hn
  | project below positions => exact if_pos hn
  | limit below count offset => exact if_pos hn

def Ready (table : Table) (plan : Plan) (s : plan.State) : Prop :=
  plan.Sound table s ∧ plan.started s = true

theorem hands_scan : Hands scan.pull scan.events (Ready table scan) := by
  rintro ⟨schema, rows, started⟩ ⟨⟨hschema, hsub⟩, hst⟩
  cases hst
  cases rows with
  | nil => exact ⟨⟨schema, [], true⟩, rfl, rfl, ⟨hschema, hsub⟩, rfl⟩
  | cons row rows =>
    have hsub' : rows ⊆ table.rows := fun _ h => hsub (List.mem_cons_of_mem _ h)
    exact ⟨⟨schema, rows, true⟩, rfl, rfl, ⟨hschema, hsub'⟩, rfl⟩

theorem hands_filter {below : Plan} (predicates : Filter)
    (h : Hands below.pull below.events (Ready table below)) :
    Hands (filter below predicates).pull (filter below predicates).events
      (Ready table (filter below predicates)) := by
  rintro ⟨b, schema, started⟩ ⟨⟨hsound, hlayer⟩, hst⟩
  cases hst
  obtain ⟨b', hseek, hrest, hsound', hst'⟩ := h.seek predicates (below.rowsLeft b) b
    ⟨hsound, (hlayer rfl).1⟩ (below.length_events_le b)
  refine ⟨⟨b', schema, true⟩, ?_, hrest, ⟨hsound', ?_⟩, rfl⟩
  · simp only [pull, hseek]
    rfl
  · exact fun _ => ⟨hst', (hlayer rfl).2⟩

theorem hands_project {below : Plan} (positions : List Nat)
    (h : Hands below.pull below.events (Ready table below)) :
    Hands (project below positions).pull (project below positions).events
      (Ready table (project below positions)) := by
  rintro ⟨b, schema, started⟩ ⟨⟨hsound, hlayer⟩, hst⟩
  cases hst
  obtain ⟨hbst, hschema, hp⟩ := hlayer rfl
  obtain ⟨b', hpull, hrest, hsound', hst'⟩ := h b ⟨hsound, hbst⟩
  refine ⟨⟨b', schema, true⟩, ?_, ?_, ⟨hsound', fun _ => ⟨hst', hschema, hp⟩⟩, rfl⟩
  · cases he : below.events b with
    | nil => simp [pull, hpull, events, he, Event.first]
    | cons event events' =>
      cases event with
      | error e => simp [pull, hpull, events, he, Event.first, Event.pull, Event.picked]
      | ok row =>
        -- the positions were checked against the schema, and the row is as wide as that
        have hw : row.length = (below.shape table.schema).length :=
          hsound.width row (by rw [he]; exact List.mem_cons_self)
        have hr : Row.project row positions = .ok (pick row positions) :=
          Row.project_eq_ok row positions (by rw [hw]; exact hp)
        simp [pull, hpull, events, he, Event.first, Event.pull, Event.picked, hr]
  · simp only [events, hrest, List.map_tail]

theorem hands_limit {below : Plan} (count offset : Nat)
    (h : Hands below.pull below.events (Ready table below)) :
    Hands (limit below count offset).pull (limit below count offset).events
      (Ready table (limit below count offset)) := by
  rintro ⟨⟨b, schema, started⟩, skipped, returned⟩ ⟨⟨hsound, hlayer, hfresh⟩, hst⟩
  cases hst
  obtain ⟨hbst, hschema⟩ := hlayer rfl
  by_cases hc : count ≤ returned
  · refine ⟨⟨⟨b, schema, true⟩, skipped, returned⟩, ?_, ?_, ⟨hsound, hlayer, hfresh⟩, rfl⟩
    · simp [pull, hc, events, Event.first]
    · simp [events, hc]
  obtain ⟨more, hmore⟩ : ∃ more, count - returned = more + 1 := ⟨count - returned - 1, by omega⟩
  obtain ⟨b', dropped, stop, hskip, ⟨hsound', hst'⟩, hstop⟩ :=
    h.skip (offset - skipped) more b ⟨hsound, hbst⟩
  cases stop with
  | some result =>
    -- the rows dropped so far are counted, and the next pull goes on skipping from there
    obtain ⟨hresult, hrest⟩ := hstop
    refine ⟨⟨⟨b', schema, true⟩, skipped + dropped, returned⟩, ?_, ?_,
      ⟨hsound', fun _ => ⟨hst', hschema⟩, by simp⟩, rfl⟩
    · simp [pull, hc, hskip, events, hmore, hresult]
    · simp [events, hmore, Nat.sub_add_eq, hrest]
  | none =>
    obtain ⟨hdropped, hrest⟩ := hstop
    have hev : (limit below count offset).events ⟨⟨b, schema, true⟩, skipped, returned⟩ =
        Event.window 0 (more + 1) (below.events b') := by
      simp only [events, hmore]
      exact hrest
    have hskipped : offset - (skipped + dropped) = 0 := by omega
    have hreturned : count - (returned + 1) = more := by omega
    obtain ⟨b'', result, hpull, ⟨hsound'', hst''⟩, hresult, hrest'⟩ :=
      h.next_window more b' ⟨hsound', hst'⟩
    rw [hev, ← hresult, hrest']
    cases result with
    | row row =>
      refine ⟨⟨⟨b'', schema, true⟩, skipped + dropped, returned + 1⟩, ?_, ?_,
        ⟨hsound'', fun _ => ⟨hst'', hschema⟩, by simp⟩, rfl⟩
      · simp [pull, hc, hskip, hpull]
      · simp [events, hskipped, hreturned]
    | done =>
      refine ⟨⟨⟨b'', schema, true⟩, skipped + dropped, returned⟩, ?_, ?_,
        ⟨hsound'', fun _ => ⟨hst'', hschema⟩, by simp⟩, rfl⟩
      · simp [pull, hc, hskip, hpull]
      · simp [events, hskipped, hmore]
    | failed e =>
      refine ⟨⟨⟨b'', schema, true⟩, skipped + dropped, returned⟩, ?_, ?_,
        ⟨hsound'', fun _ => ⟨hst'', hschema⟩, by simp⟩, rfl⟩
      · simp [pull, hc, hskip, hpull]
      · simp [events, hskipped, hmore]

/-- A started cursor hands out its events, one at a time. -/
theorem hands_events (table : Table) (plan : Plan) :
    Hands plan.pull plan.events (Ready table plan) := by
  induction plan with
  | scan => exact hands_scan
  | filter below predicates ih => exact hands_filter predicates ih
  | project below positions ih => exact hands_project positions ih
  | limit below count offset ih => exact hands_limit count offset ih

end TableScope.Plan
