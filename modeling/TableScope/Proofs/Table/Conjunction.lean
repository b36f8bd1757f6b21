import TableScope.Proofs.Table.Operations

/-! # Filters as conjunctions

A filter succeeds if every predicate passes the check and can be evaluated on every row, and it then
keeps the rows that satisfy all of them (`filter_eq_ok_iff`). What it keeps does not depend on the order
of its predicates, nor on how often each is asked for. Two filters one after the other do what they do
together, unless a row that the first one drops cannot be evaluated by the second: then the two together
fail and one after the other they do not. On rows of the declared types this cannot happen
(`filter_conjunction`).
-/
set_option autoImplicit false

namespace TableScope

namespace Filter

variable {predicates first second : Filter} {schema : Schema} {row : Row} {rows : List Row}

theorem checkSchema_eq_ok_iff :
    predicates.checkSchema schema = .ok () ↔ ∀ p ∈ predicates, p.checkSchema schema = .ok () := by
  induction predicates with
  | nil => exact ⟨fun _ => nofun, fun _ => rfl⟩
  | cons p others ih => rw [checkSchema_cons_eq_ok_iff, ih, List.forall_mem_cons]

theorem checkSchema_append (first second : Filter) (schema : Schema) :
    checkSchema (first ++ second) schema =
      first.checkSchema schema >>= fun _ => second.checkSchema schema := by
  induction first with
  | nil => rfl
  | cons p others ih =>
    rw [List.cons_append, checkSchema, checkSchema, ih]
    cases p.checkSchema schema <;> rfl

/-- A filter can be evaluated if each predicate can, also behind one that does not hold. -/
theorem evaluate_eq_ok_iff : (∃ holds, predicates.evaluate row = .ok holds) ↔
    ∀ p ∈ predicates, ∃ holds, p.evaluate row = .ok holds := by
  induction predicates with
  | nil => exact ⟨fun _ => nofun, fun _ => ⟨true, rfl⟩⟩
  | cons p others ih =>
    rw [List.forall_mem_cons, ← ih]
    constructor
    · rintro ⟨holds, h⟩
      obtain ⟨first, hp, h⟩ := exists_ok_of_bind h
      obtain ⟨rest, ho, -⟩ := exists_ok_of_bind h
      exact ⟨⟨first, hp⟩, rest, ho⟩
    · rintro ⟨⟨first, hp⟩, rest, ho⟩
      refine ⟨first && rest, ?_⟩
      rw [evaluate, hp, ho]
      rfl

theorem evaluate_of_sift {kept : List Row} (h : predicates.sift rows = .ok kept) :
    ∀ row ∈ rows, ∃ holds, predicates.evaluate row = .ok holds := by
  induction rows generalizing kept with
  | nil => exact nofun
  | cons row rows ih =>
    obtain ⟨holds, hr, h⟩ := exists_ok_of_bind h
    obtain ⟨others, ho, -⟩ := exists_ok_of_bind h
    exact List.forall_mem_cons.mpr ⟨⟨holds, hr⟩, ih ho⟩

end Filter

namespace Table

variable {table kept : Table} {predicates others first second : Filter}

/-- Every predicate passes the check and can be evaluated on every row. -/
structure Admits (table : Table) (predicates : Filter) : Prop where
  checked : ∀ p ∈ predicates, p.checkSchema table.schema = .ok ()
  evaluated : ∀ row ∈ table.rows, ∀ p ∈ predicates, ∃ holds, p.evaluate row = .ok holds

theorem Admits.mono (h : table.Admits predicates) (hs : others ⊆ predicates) :
    table.Admits others :=
  ⟨fun p hp => h.checked p (hs hp), fun row hr p hp => h.evaluated row hr p (hs hp)⟩

/-- The rows that satisfy all predicates. -/
def satisfying (table : Table) (predicates : Filter) : Table :=
  table.withRows (table.rows.filter fun row => predicates.all fun p => p.holds row)
    List.filter_sublist.subset

theorem filter_eq_ok_iff :
    table.filter predicates = .ok kept ↔ table.Admits predicates ∧ kept = table.satisfying predicates := by
  constructor
  · intro h
    cases hc : predicates.checkSchema table.schema with
    | error e => rw [table.filter_eq_error hc] at h; cases h
    | ok passed =>
      cases hs : predicates.sift table.rows with
      | error e => rw [table.filter_of_sift_eq_error hc hs] at h; cases h
      | ok rows =>
        have he := Filter.evaluate_of_sift hs
        obtain rfl := Except.ok.inj (hs.symm.trans (Filter.sift_eq_ok he))
        rw [table.filter_of_sift_eq_ok hc hs] at h
        cases h
        exact ⟨⟨Filter.checkSchema_eq_ok_iff.mp hc,
          fun row hr => Filter.evaluate_eq_ok_iff.mp (he row hr)⟩, rfl⟩
  · rintro ⟨⟨checked, evaluated⟩, rfl⟩
    exact table.filter_of_sift_eq_ok (Filter.checkSchema_eq_ok_iff.mpr checked)
      (Filter.sift_eq_ok fun row hr => Filter.evaluate_eq_ok_iff.mpr (evaluated row hr))

theorem filter_eq_ok_congr (h : ∀ p, p ∈ predicates ↔ p ∈ others) :
    table.filter predicates = .ok kept ↔ table.filter others = .ok kept := by
  have hadmits : table.Admits predicates ↔ table.Admits others :=
    ⟨fun ha => ha.mono fun p => (h p).mpr, fun ha => ha.mono fun p => (h p).mp⟩
  have hall : ∀ row, (predicates.all fun p => p.holds row) = others.all fun p => p.holds row := by
    intro row
    rw [Bool.eq_iff_iff, List.all_eq_true, List.all_eq_true]
    exact forall_congr' fun p => by rw [h p]
  rw [filter_eq_ok_iff, filter_eq_ok_iff, hadmits, satisfying, satisfying]
  simp only [hall]

/-! ## One filter after the other -/

/-- The rows that the second filter keeps of those that the first one keeps. -/
def filterInTurn (table : Table) (first second : Filter) : Except TableError Table := do
  let kept ← table.filter first
  kept.filter second

theorem satisfying_satisfying (table : Table) (first second : Filter) :
    (table.satisfying first).satisfying second = table.satisfying (first ++ second) := by
  refine Table.ext rfl ?_
  simp only [satisfying, withRows, List.filter_filter, List.all_append, Bool.and_comm]

theorem Admits.in_turn (h : table.Admits (first ++ second)) :
    table.Admits first ∧ (table.satisfying first).Admits second := by
  have hsecond : table.Admits second := h.mono fun p => List.mem_append_right first
  refine ⟨h.mono fun p => List.mem_append_left second, hsecond.checked, ?_⟩
  exact fun row hr => hsecond.evaluated row (List.mem_filter.mp hr).1

theorem filterInTurn_of_append (h : table.filter (first ++ second) = .ok kept) :
    table.filterInTurn first second = .ok kept := by
  obtain ⟨hadmits, rfl⟩ := filter_eq_ok_iff.mp h
  obtain ⟨hfirst, hsecond⟩ := hadmits.in_turn
  have hf : table.filter first = .ok (table.satisfying first) := filter_eq_ok_iff.mpr ⟨hfirst, rfl⟩
  have hs : (table.satisfying first).filter second = .ok (table.satisfying (first ++ second)) :=
    filter_eq_ok_iff.mpr ⟨hsecond, (table.satisfying_satisfying first second).symm⟩
  rw [filterInTurn, hf]
  exact hs

theorem Conforming.filter_append (h : table.Conforming) (first second : Filter) :
    table.filter (first ++ second) = table.filterInTurn first second := by
  have happend := Filter.checkSchema_append first second table.schema
  rw [filterInTurn]
  cases hf : first.checkSchema table.schema with
  | error e =>
    rw [hf] at happend
    rw [table.filter_eq_error happend, table.filter_eq_error hf]
    rfl
  | ok passed =>
    rw [hf] at happend
    have hkept := table.filter_eq_ok hf h
    cases hs : second.checkSchema table.schema with
    | error e =>
      rw [table.filter_eq_error (happend.trans hs), hkept]
      exact (filter_eq_error (table.satisfying first) hs).symm
    | ok passed =>
      rw [table.filter_eq_ok (happend.trans hs) h, hkept]
      have hconf : (table.satisfying first).Conforming := h.withRows List.filter_sublist.subset
      have hsecond := filter_eq_ok (table.satisfying first) hs hconf
      exact (hsecond.trans (congrArg Except.ok (table.satisfying_satisfying first second))).symm

theorem filterInTurn_self (table : Table) (predicates : Filter) :
    table.filterInTurn predicates predicates = table.filter predicates := by
  cases h : table.filter predicates with
  | error e => rw [filterInTurn, h]; rfl
  | ok kept =>
    -- asked for twice, the predicates are the same ones
    have hboth : table.filter (predicates ++ predicates) = .ok kept :=
      (filter_eq_ok_congr fun p => by rw [List.mem_append, or_self]).mpr h
    exact filterInTurn_of_append hboth

/-- Filtering by predicates is filtering by their conjunction, whatever their order and number. -/
theorem filter_conjunction (table : Table) :
    (∀ predicates others : Filter, predicates.Perm others →
      ∀ kept, table.filter predicates = .ok kept ↔ table.filter others = .ok kept) ∧
    (∀ (first second : Filter) (kept : Table), table.filter (first ++ second) = .ok kept →
      table.filterInTurn first second = .ok kept) ∧
    (table.Conforming → ∀ first second : Filter,
      table.filter (first ++ second) = table.filterInTurn first second) ∧
    (∀ predicates : Filter, table.filterInTurn predicates predicates = table.filter predicates) :=
  ⟨fun _ _ hp _ => filter_eq_ok_congr fun _ => hp.mem_iff, fun _ _ _ h => filterInTurn_of_append h,
    fun h => h.filter_append, table.filterInTurn_self⟩

/-- The last count is none, and its mark is one to be dropped. -/
def parcels : Table where
  schema := [⟨"mark", .string⟩, ⟨"count", .int64⟩]
  rows := [[.string "ab", .int64 4], [.null, .int64 9], [.string "ac", .int64 1],
    [.string "b", .string "many"]]
  rectangular := by decide

theorem filter_conjunction_parcels :
    let sorted : Predicate := ⟨"mark", 0, .relation .lt, .string "b"⟩
    let marked : Predicate := ⟨"mark", 0, .textTest .endsWith, .string "b"⟩
    let large : Predicate := ⟨"count", 1, .relation .gt, .integer 2⟩
    let first := parcels.withRows [[.string "ab", .int64 4]] (by decide)
    let counted := parcels.withRows (parcels.rows.take 3) (List.take_subset _ _)
    (List.Perm [sorted, marked] [marked, sorted] ∧ parcels.filter [sorted, marked] = .ok first ∧
      parcels.filter [marked, sorted] = .ok first) ∧
    parcels.filterInTurn [sorted] [marked] = .ok first ∧
    (¬ parcels.Conforming ∧ parcels.filterInTurn [sorted] [large] = .ok first ∧
      parcels.filter [sorted, large] =
        .error (.evaluation (.typeMismatch "count" (.relation .gt) .string (.integer 2)))) ∧
    (counted.Conforming ∧
      counted.filter ([large] ++ [sorted]) = counted.filterInTurn [large] [sorted]) ∧
    parcels.filterInTurn [marked] [marked] = parcels.filter [marked] := by
  intro sorted marked large first counted
  obtain ⟨order, inTurn, -, again⟩ := filter_conjunction parcels
  have hperm : List.Perm [sorted, marked] [marked, sorted] := .swap _ _ _
  have hboth : parcels.filter [sorted, marked] = .ok first := rfl
  have hcounted : counted.Conforming := by decide
  refine ⟨⟨hperm, hboth, (order _ _ hperm first).mp hboth⟩, inTurn [sorted] [marked] first hboth,
    ⟨by decide, rfl, rfl⟩, ⟨hcounted, ?_⟩, again [marked]⟩
  exact (filter_conjunction counted).2.2.1 hcounted [large] [sorted]

end Table

end TableScope
