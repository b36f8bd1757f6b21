import TableScope.Proofs.Cursor.Layers

/-! # Calls on a cursor

A cursor is used by two calls, in any order. `session` is what the calls answer, said by three things
alone: how a start comes out, whether the cursor is started, and the events that are left.
`Sound.answers_eq` says that all calls on a sound state answer like that.
-/
set_option autoImplicit false

namespace TableScope

inductive Call
  | start
  | pull
deriving DecidableEq, Repr

inductive Answer
  | started (result : Except TableError Unit)
  | pulled (result : Pull)

def Answer.isRow : Answer → Bool
  | pulled (.row _) => true
  | _ => false

/-- What some calls answer. Until the first start that succeeds, pulling fails; from then on it hands
out the events, and then says that there are no more. -/
def session (outcome : Except TableError Unit) : Bool → List Event → List Call → List Answer
  | _, _, [] => []
  | false, events, .pull :: calls =>
    .pulled (.failed .notStarted) :: session outcome false events calls
  | false, events, .start :: calls => .started outcome :: session outcome outcome.isOk events calls
  | true, events, .pull :: calls =>
    .pulled (Event.first events) :: session outcome true events.tail calls
  | true, events, .start :: calls => .started (.ok ()) :: session outcome true events calls

theorem mem_of_mem_session {outcome : Except TableError Unit} {started : Bool} {events : List Event}
    {calls : List Call} {row : Row}
    (h : .pulled (.row row) ∈ session outcome started events calls) : .ok row ∈ events := by
  fun_induction session outcome started events calls with
  | case1 => cases h
  | case2 events calls ih =>
    rcases List.mem_cons.mp h with hc | h
    · cases hc
    · exact ih h
  | case3 events calls ih =>
    rcases List.mem_cons.mp h with hc | h
    · cases hc
    · exact ih h
  | case4 events calls ih =>
    rcases List.mem_cons.mp h with hc | h
    · have hf : Event.first events = .row row := (Answer.pulled.inj hc).symm
      rw [Event.eq_cons_of_first hf]
      exact List.mem_cons_self
    · exact List.mem_of_mem_tail (ih h)
  | case5 events calls ih =>
    rcases List.mem_cons.mp h with hc | h
    · cases hc
    · exact ih h

/-! ## Calls on the state of a plan -/

namespace Plan

def call (plan : Plan) (s : plan.State) : Call → plan.State × Answer
  | .start => ((plan.start s).1, .started (plan.start s).2)
  | .pull => ((plan.pull s).1, .pulled (plan.pull s).2)

def after (plan : Plan) (s : plan.State) : List Call → plan.State
  | [] => s
  | call :: calls => plan.after (plan.call s call).1 calls

def answers (plan : Plan) (s : plan.State) : List Call → List Answer
  | [] => []
  | call :: calls => (plan.call s call).2 :: plan.answers (plan.call s call).1 calls

variable {table : Table} {plan : Plan} {s : plan.State}

theorem Sound.pull (h : plan.Sound table s) : plan.Sound table (plan.pull s).1 := by
  cases hs : plan.started s with
  | false =>
    rw [pull_of_not_started hs]
    exact h
  | true =>
    obtain ⟨s', hp, -, hr⟩ := hands_events table plan s ⟨h, hs⟩
    rw [hp]
    exact hr.1

theorem Sound.started_pull (h : plan.Sound table s) :
    plan.started (plan.pull s).1 = plan.started s := by
  cases hs : plan.started s with
  | false => rw [pull_of_not_started hs, hs]
  | true =>
    obtain ⟨s', hp, -, hr⟩ := hands_events table plan s ⟨h, hs⟩
    rw [hp]
    exact hr.2

theorem Sound.start (h : plan.Sound table s) : plan.Sound table (plan.start s).1 := by
  cases h.starts with
  | succeeds s' applicable result sound still started => rw [result]; exact sound
  | fails s' e refused result sound still unstarted again => rw [result]; exact sound

theorem Sound.call (h : plan.Sound table s) (call : Call) :
    plan.Sound table (plan.call s call).1 := by
  cases call with
  | start => exact h.start
  | pull => exact h.pull

theorem Sound.after (h : plan.Sound table s) (calls : List Call) :
    plan.Sound table (plan.after s calls) := by
  induction calls generalizing s with
  | nil => exact h
  | cons call calls ih => exact ih (h.call call)

theorem Sound.progress_start (h : plan.Sound table s) :
    plan.progress (plan.start s).1 = plan.progress s := by
  cases h.starts with
  | succeeds s' applicable result sound still started => rw [result]; exact still
  | fails s' e refused result sound still unstarted again => rw [result]; exact still

/-- How a start comes out does not change: no call mends or breaks a plan. -/
theorem Sound.outcome_call (h : plan.Sound table s) (call : Call) :
    (plan.start (plan.call s call).1).2 = (plan.start s).2 := by
  cases call with
  | start =>
    cases h.starts with
    | succeeds s' applicable result sound still started =>
      simp only [Plan.call, result, start_of_started started]
    | fails s' e refused result sound still unstarted again =>
      simp only [Plan.call, result, again]
  | pull =>
    cases hs : plan.started s with
    | false => simp only [Plan.call, pull_of_not_started hs]
    | true =>
      have hp : plan.started (plan.pull s).1 = true := h.started_pull.trans hs
      simp only [Plan.call, start_of_started hp, start_of_started hs]

theorem Sound.outcome_after (h : plan.Sound table s) (calls : List Call) :
    (plan.start (plan.after s calls)).2 = (plan.start s).2 := by
  induction calls generalizing s with
  | nil => rfl
  | cons call calls ih => exact (ih (h.call call)).trans (h.outcome_call call)

theorem Sound.answers_eq (h : plan.Sound table s) (calls : List Call) :
    plan.answers s calls =
      session (plan.start s).2 (plan.started s) (plan.events s) calls := by
  induction calls generalizing s with
  | nil => cases plan.started s <;> rfl
  | cons call calls ih =>
    rw [Plan.answers, ih (h.call call), h.outcome_call call]
    cases call with
    | start =>
      cases h.starts with
      | succeeds s' applicable result sound still started =>
        simp only [Plan.call, result, started, plan.events_congr still]
        cases hs : plan.started s <;> rfl
      | fails s' e refused result sound still unstarted again =>
        have hs := not_started_of_start_error result
        simp only [Plan.call, result, unstarted, plan.events_congr still, hs]
        rfl
    | pull =>
      cases hs : plan.started s with
      | false =>
        simp only [Plan.call, pull_of_not_started hs, hs]
        rfl
      | true =>
        obtain ⟨s', hp, hrest, hr⟩ := hands_events table plan s ⟨h, hs⟩
        simp only [Plan.call, hp, hrest, hr.2]
        rfl

theorem Sound.started_after (h : plan.Sound table s) (calls : List Call) :
    plan.started (plan.after s calls) = true ↔
      plan.started s = true ∨ .started (.ok ()) ∈ plan.answers s calls := by
  induction calls generalizing s with
  | nil => simp [Plan.after, Plan.answers]
  | cons call calls ih =>
    rw [Plan.after, Plan.answers, ih (h.call call), List.mem_cons, ← or_assoc]
    apply or_congr_left
    cases call with
    | start =>
      cases h.starts with
      | succeeds s' applicable result sound still started => simp [Plan.call, result, started]
      | fails s' e refused result sound still unstarted again =>
        simp [Plan.call, result, unstarted, not_started_of_start_error result]
    | pull => simp [Plan.call, h.started_pull]

theorem Sound.mem_events_of_pulled (h : plan.Sound table s) {calls : List Call} {row : Row}
    (hr : .pulled (.row row) ∈ plan.answers s calls) : .ok row ∈ plan.events s := by
  rw [h.answers_eq] at hr
  exact mem_of_mem_session hr

/-! ## The counter of a limit -/

theorem skip_stop_ne_row {σ : Type} (next : σ → σ × Pull) (rows : Nat) (s : σ) (row : Row) :
    (skip next rows s).2.2 ≠ some (.row row) := by
  induction rows generalizing s with
  | zero => simp [skip]
  | succ rows ih =>
    rw [skip]
    split
    · exact ih _
    · rename_i s' pull hne hn
      intro h
      exact hne row (Option.some.inj h)

/-- A limit counts the rows that it hands out. -/
theorem returned_pull {below : Plan} {count offset : Nat} (s : (limit below count offset).State) :
    ((limit below count offset).pull s).1.returned =
      s.returned + if Answer.isRow (.pulled ((limit below count offset).pull s).2) then 1 else 0 := by
  rw [Plan.pull]
  split
  · rfl
  split
  · rfl
  split
  · rename_i b dropped stop hk
    have hne := skip_stop_ne_row below.pull (offset - s.skipped) s.below
    rw [hk] at hne
    cases stop with
    | row row => exact absurd rfl (hne row)
    | done => rfl
    | failed e => rfl
  · rename_i b dropped hk
    obtain ⟨b', result, hp⟩ : ∃ b' result, below.pull b = (b', result) := ⟨_, _, rfl⟩
    simp only [hp]
    cases result <;> rfl

theorem returned_after {below : Plan} {count offset : Nat} {s : (limit below count offset).State}
    (h : (limit below count offset).Sound table s) (calls : List Call) :
    ((limit below count offset).after s calls).returned =
      s.returned + ((limit below count offset).answers s calls).countP Answer.isRow := by
  induction calls generalizing s with
  | nil => rfl
  | cons call calls ih =>
    rw [Plan.after, Plan.answers, ih (h.call call), List.countP_cons]
    cases call with
    | start =>
      have hp := h.progress_start
      have hr := (Prod.ext_iff.mp (List.cons_eq_cons.mp (Prod.ext_iff.mp hp).2).1).2
      simp only at hr
      simp only [Plan.call]
      rw [hr]
      rfl
    | pull =>
      simp only [Plan.call]
      rw [returned_pull, Nat.add_assoc, Nat.add_comm (ite _ _ _)]
      rfl

theorem limit_pull_of_le {below : Plan} {count offset : Nat} {s : (limit below count offset).State}
    (h : count ≤ s.returned) : ((limit below count offset).pull s).1 = s := by
  rw [Plan.pull]
  split
  · rfl
  · rfl

end Plan

end TableScope
