import TableScope.Cursor.Basic
import TableScope.Proofs.Table.Positions

/-! # What a cursor still hands out

A started cursor hands out events: rows, and errors that stand in the place of a row. The events that
are left are a list, and each layer turns the list of the layer below into its own: a filter by
`Event.kept`, a projection by `Event.picked`, a limit by `Event.window`. `Hands` says of a step
function that it hands out a list event by event; the loops over a step function (`Plan.seek`,
`Plan.skip`, `Plan.drain`) are described once for all such functions.
-/
set_option autoImplicit false

namespace TableScope

/-- What is handed out before the end: a row, or the error in the place of one. -/
abbrev Event := Except EvaluationError Row

namespace Event

def pull : Event → Pull
  | .ok row => .row row
  | .error e => .failed (.evaluation e)

def first : List Event → Pull
  | [] => .done
  | event :: _ => event.pull

theorem eq_cons_of_first {events : List Event} {row : Row} (h : first events = .row row) :
    events = .ok row :: events.tail := by
  cases events with
  | nil => cases h
  | cons event events =>
    cases event with
    | error e => cases h
    | ok row' => cases h; rfl

/-- What a filter makes of an event: it drops the rows that do not satisfy it, and a row that it
cannot be evaluated on becomes the error. -/
def kept (predicates : Filter) : Event → Option Event
  | .error e => some (.error e)
  | .ok row =>
    match predicates.evaluate row with
    | .ok true => some (.ok row)
    | .ok false => none
    | .error e => some (.error e)

theorem eq_of_kept_eq_ok {predicates : Filter} {event : Event} {row : Row}
    (h : kept predicates event = some (.ok row)) : event = .ok row := by
  cases event with
  | error e => cases h
  | ok row' =>
    rw [kept] at h
    split at h <;> cases h
    rfl

def picked (positions : List Nat) : Event → Event
  | .error e => .error e
  | .ok row => .ok (pick row positions)

/-- What a limit makes of some events: the first `offset` rows are dropped, the next `count` rows
pass, and nothing comes after the last of them. Errors pass up to there, and count as no row. -/
def window : (offset count : Nat) → List Event → List Event
  | _, 0, _ => []
  | _, _ + 1, [] => []
  | offset, count + 1, .error e :: events => .error e :: window offset (count + 1) events
  | 0, count + 1, .ok row :: events => .ok row :: window 0 count events
  | offset + 1, count + 1, .ok _ :: events => window offset (count + 1) events

@[simp] theorem window_zero (offset : Nat) (events : List Event) : window offset 0 events = [] := by
  unfold window
  rfl

@[simp] theorem window_nil (offset count : Nat) : window offset count [] = [] := by
  cases count <;> rfl

theorem window_error (offset count : Nat) (e : EvaluationError) (events : List Event) :
    window offset (count + 1) (.error e :: events) =
      .error e :: window offset (count + 1) events := by
  cases offset <;> rfl

theorem length_window_le (offset count : Nat) (events : List Event) :
    (window offset count events).length ≤ events.length := by
  fun_induction window offset count events with
  | case1 => simp
  | case2 => simp
  | case3 offset count e events ih => simpa using ih
  | case4 count row events ih => simpa using ih
  | case5 offset count row events ih => exact Nat.le_succ_of_le ih

theorem mem_of_mem_window {offset count : Nat} {events : List Event} {event : Event}
    (h : event ∈ window offset count events) : event ∈ events := by
  fun_induction window offset count events with
  | case1 => cases h
  | case2 => cases h
  | case3 offset count e events ih =>
    rcases List.mem_cons.mp h with rfl | h
    · exact List.mem_cons_self
    · exact List.mem_cons_of_mem _ (ih h)
  | case4 count row events ih =>
    rcases List.mem_cons.mp h with rfl | h
    · exact List.mem_cons_self
    · exact List.mem_cons_of_mem _ (ih h)
  | case5 offset count row events ih => exact List.mem_cons_of_mem _ (ih h)

/-- On rows alone a limit is a sublist from one place to another. -/
theorem window_rows (offset count : Nat) (rows : List Row) :
    window offset count (rows.map .ok) = ((rows.drop offset).take count).map .ok := by
  induction rows generalizing offset count with
  | nil => simp
  | cons row rows ih =>
    cases count with
    | zero => simp
    | succ count =>
      cases offset with
      | zero =>
        have h := ih 0 count
        rw [List.drop_zero] at h
        simp only [List.map_cons, List.drop_zero, List.take_succ_cons]
        rw [← h]
        rfl
      | succ offset =>
        rw [List.drop_succ_cons, ← ih offset (count + 1)]
        rfl

def rows : List Event → Except TableError (List Row)
  | [] => .ok []
  | .error e :: _ => .error (.evaluation e)
  | .ok row :: events => do return row :: (← rows events)

theorem rows_map_ok (list : List Row) : rows (list.map .ok) = .ok list := by
  induction list with
  | nil => rfl
  | cons row list ih =>
    rw [List.map_cons, rows, ih]
    rfl

end Event

/-! ## Step functions that hand out a list -/

/-- Asking for the next row hands out the first of the events in view, and leaves the others in view.
-/
def Hands {σ : Type} (next : σ → σ × Pull) (view : σ → List Event) (Good : σ → Prop) : Prop :=
  ∀ s, Good s → ∃ s', next s = (s', Event.first (view s)) ∧ view s' = (view s).tail ∧ Good s'

namespace Hands

variable {σ : Type} {next : σ → σ × Pull} {view : σ → List Event} {Good : σ → Prop}

theorem next_cons (h : Hands next view Good) {s : σ} (hs : Good s) {event : Event}
    {events : List Event} (hv : view s = event :: events) :
    ∃ s', next s = (s', event.pull) ∧ view s' = events ∧ Good s' := by
  obtain ⟨s', hn, hv', hg⟩ := h s hs
  rw [hv] at hn hv'
  exact ⟨s', hn, hv', hg⟩

theorem next_nil (h : Hands next view Good) {s : σ} (hs : Good s) (hv : view s = []) :
    ∃ s', next s = (s', .done) ∧ view s' = [] ∧ Good s' := by
  obtain ⟨s', hn, hv', hg⟩ := h s hs
  rw [hv] at hn hv'
  exact ⟨s', hn, hv', hg⟩

/-- Seeking hands out the events that the filter keeps. The bound is large enough if there are at
most that many events. -/
theorem seek (h : Hands next view Good) (predicates : Filter) (left : Nat) (s : σ) (hs : Good s)
    (hl : (view s).length ≤ left) :
    ∃ s', Plan.seek next predicates.evaluate left s =
        (s', Event.first ((view s).filterMap (Event.kept predicates))) ∧
      (view s').filterMap (Event.kept predicates) =
        ((view s).filterMap (Event.kept predicates)).tail ∧ Good s' := by
  induction left generalizing s with
  | zero =>
    have hv : view s = [] := List.length_eq_zero_iff.mp (Nat.le_zero.mp hl)
    obtain ⟨s', hn, hv', hg⟩ := h.next_nil hs hv
    exact ⟨s', by rw [Plan.seek, hn, hv]; rfl, by rw [hv, hv']; rfl, hg⟩
  | succ left ih =>
    cases hv : view s with
    | nil =>
      obtain ⟨s', hn, hv', hg⟩ := h.next_nil hs hv
      exact ⟨s', by rw [Plan.seek, hn]; rfl, by rw [hv']; rfl, hg⟩
    | cons event events =>
      obtain ⟨s', hn, hv', hg⟩ := h.next_cons hs hv
      have hl' : (view s').length ≤ left := by
        rw [hv, List.length_cons] at hl
        rw [hv']
        exact Nat.le_of_succ_le_succ hl
      cases event with
      | error e => exact ⟨s', by rw [Plan.seek, hn]; rfl, by rw [hv']; rfl, hg⟩
      | ok row =>
        rw [Plan.seek, hn]
        simp only [Event.pull]
        cases hk : predicates.evaluate row with
        | error e =>
          have he : Event.kept predicates (.ok row) = some (.error e) := by simp [Event.kept, hk]
          rw [List.filterMap_cons_some he]
          exact ⟨s', rfl, by rw [hv']; rfl, hg⟩
        | ok keep =>
          cases keep with
          | true =>
            have he : Event.kept predicates (.ok row) = some (.ok row) := by simp [Event.kept, hk]
            rw [List.filterMap_cons_some he]
            exact ⟨s', rfl, by rw [hv']; rfl, hg⟩
          | false =>
            have he : Event.kept predicates (.ok row) = none := by simp [Event.kept, hk]
            rw [List.filterMap_cons_none he, ← hv']
            exact ih s' hg hl'

/-- Skipping either drops all the rows it should, or stops at what comes instead of a row. -/
theorem skip (h : Hands next view Good) (offset count : Nat) (s : σ) (hs : Good s) :
    ∃ s' dropped stop, Plan.skip next offset s = (s', dropped, stop) ∧ Good s' ∧
      match stop with
      | none => dropped = offset ∧
          Event.window offset (count + 1) (view s) = Event.window 0 (count + 1) (view s')
      | some pull => pull = Event.first (Event.window offset (count + 1) (view s)) ∧
          Event.window (offset - dropped) (count + 1) (view s') =
            (Event.window offset (count + 1) (view s)).tail := by
  induction offset generalizing s with
  | zero => exact ⟨s, 0, none, rfl, hs, rfl, rfl⟩
  | succ offset ih =>
    cases hv : view s with
    | nil =>
      obtain ⟨s', hn, hv', hg⟩ := h.next_nil hs hv
      exact ⟨s', 0, some .done, by rw [Plan.skip, hn], hg, rfl, by rw [hv']; rfl⟩
    | cons event events =>
      obtain ⟨s', hn, hv', hg⟩ := h.next_cons hs hv
      cases event with
      | error e =>
        refine ⟨s', 0, some (.failed (.evaluation e)), by rw [Plan.skip, hn]; rfl, hg, ?_, ?_⟩
        · rw [Event.window_error]
          rfl
        · rw [Event.window_error, hv']
          rfl
      | ok row =>
        -- the row is dropped: the rest of the loop sees the window of what comes after it
        obtain ⟨s'', dropped, stop, hk, hg', hstop⟩ := ih s' hg
        refine ⟨s'', dropped + 1, stop, ?_, hg', ?_⟩
        · rw [Plan.skip, hn]
          simp only [Event.pull]
          rw [hk]
        · have hw : Event.window (offset + 1) (count + 1) (.ok row :: events) =
              Event.window offset (count + 1) (view s') := by rw [hv']; rfl
          rw [hw]
          cases stop with
          | none => exact ⟨by rw [hstop.1], hstop.2⟩
          | some pull =>
            rw [Nat.add_sub_add_right]
            exact hstop

/-- With nothing to skip, a limit that is not spent hands out what comes next, and counts it if it is
a row. -/
theorem next_window (h : Hands next view Good) (count : Nat) (s : σ) (hs : Good s) :
    ∃ s' result, next s = (s', result) ∧ Good s' ∧
      result = Event.first (Event.window 0 (count + 1) (view s)) ∧
      (Event.window 0 (count + 1) (view s)).tail =
        match result with
        | .row _ => Event.window 0 count (view s')
        | .done | .failed _ => Event.window 0 (count + 1) (view s') := by
  cases hv : view s with
  | nil =>
    obtain ⟨s', hn, hv', hg⟩ := h.next_nil hs hv
    exact ⟨s', .done, hn, hg, rfl, by rw [hv']; rfl⟩
  | cons event events =>
    obtain ⟨s', hn, hv', hg⟩ := h.next_cons hs hv
    cases event with
    | error e => exact ⟨s', .failed (.evaluation e), hn, hg, rfl, by rw [hv']; rfl⟩
    | ok row => exact ⟨s', .row row, hn, hg, rfl, by rw [hv']; rfl⟩

theorem drain (h : Hands next view Good) (left : Nat) (s : σ) (hs : Good s)
    (hl : (view s).length ≤ left) : Plan.drain next left s = Event.rows (view s) := by
  induction left generalizing s with
  | zero =>
    have hv : view s = [] := List.length_eq_zero_iff.mp (Nat.le_zero.mp hl)
    obtain ⟨s', hn, -, -⟩ := h.next_nil hs hv
    rw [Plan.drain, hn, hv]
    rfl
  | succ left ih =>
    cases hv : view s with
    | nil =>
      obtain ⟨s', hn, -, -⟩ := h.next_nil hs hv
      rw [Plan.drain, hn]
      rfl
    | cons event events =>
      obtain ⟨s', hn, hv', hg⟩ := h.next_cons hs hv
      rw [Plan.drain, hn]
      cases event with
      | error e => rfl
      | ok row =>
        rw [hv, List.length_cons] at hl
        have hr := ih s' hg (by rw [hv']; exact Nat.le_of_succ_le_succ hl)
        simp only [Event.pull]
        rw [hr, hv']
        rfl

end Hands

end TableScope
