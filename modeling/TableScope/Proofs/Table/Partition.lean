import TableScope.Proofs.Table.Operations

/-! # Relations to one literal

Each cell of a column that a literal compares with is below the literal, equal to it or above it, and
only a null is none of these (`Cell.order?_eq_none_iff`). The six relations ask for one or two of the
three, so what they keep of a table is put together from what `<`, `==` and `>` keep, and the rows
without a value are left out by each of them (`relations_partition`).
-/
set_option autoImplicit false

namespace TableScope

/-! ## Cells -/

/-- Where the cell stands to the literal, if they compare. -/
def Cell.order? (cell : Cell) (literal : Literal) : Option Ordering :=
  match cell.compare literal with
  | .ordered order => some order
  | _ => none

/-- A number that is none is above the numbers. -/
theorem Cell.order?_nan {literal : Literal} (h : literal.isNumeric = true) :
    (Cell.float64 .nan).order? literal = if literal = .float .nan then some .eq else some .gt := by
  have habove : ∀ b : Binary64, b ≠ .nan → Binary.compare .nan b = .gt := by
    intro b hb
    cases b with
    | nan => exact absurd rfl hb
    | number negative place =>
      have hplace : (place.val : Int) < BinaryFormat.binary64.top + 1 := by
        exact_mod_cast place.isLt
      rw [Binary.compare, Int.compare_eq_gt, Binary.rank, Binary.rank]
      split <;> omega
  cases literal with
  | boolean | string => cases h
  | integer value => simp [order?, compare, habove, Binary.ofInt, Binary.ofRatio]
  | float value =>
    by_cases hv : value = .nan
    · subst hv
      rfl
    · simp [order?, compare, habove value hv, hv]

namespace Predicate

/-- The predicate that compares the cell at a position with a literal. -/
def comparing (name : String) (position : Nat) (literal : Literal) (relation : Relation) :
    Predicate :=
  ⟨name, position, .relation relation, literal⟩

variable {name : String} {position : Nat} {literal : Literal} {relation other : Relation}
  {cell : Cell} {type : ColumnType} {schema : Schema} {row : Row}

theorem accepts_comparing (h : (comparing name position literal relation).accepts type = true) :
    (comparing name position literal other).accepts type = true := by
  rwa [accepts_relation rfl] at h ⊢

/-- The check is the same for all relations. -/
theorem checkSchema_comparing
    (h : (comparing name position literal relation).checkSchema schema = .ok ()) :
    (comparing name position literal other).checkSchema schema = .ok () := by
  rw [checkSchema] at h ⊢
  cases ht : schema.type? position with
  | none => simp only [comparing, ht] at h; cases h
  | some type =>
    simp only [comparing, ht] at h ⊢
    exact checkType_eq_ok_iff.mpr (accepts_comparing (checkType_eq_ok_iff.mp h))

end Predicate

namespace Cell

variable {name : String} {position : Nat} {literal : Literal} {relation : Relation} {cell : Cell}
  {type : ColumnType}

theorem exists_ordered (hc : cell.Conforms type)
    (ha : (Predicate.comparing name position literal relation).accepts type = true)
    (hn : cell ≠ .null) : ∃ order, cell.compare literal = .ordered order := by
  have hcompare := Predicate.compare_of_conforms
    (p := .comparing name position literal relation) rfl hc hn
  rwa [if_pos ha] at hcompare

theorem order?_eq_none_iff (hc : cell.Conforms type)
    (ha : (Predicate.comparing name position literal relation).accepts type = true) :
    cell.order? literal = none ↔ cell = .null := by
  constructor
  · intro h
    by_contra hn
    obtain ⟨order, hcompare⟩ := exists_ordered hc ha hn
    simp only [order?, hcompare] at h
    cases h
  · rintro rfl
    rfl

theorem test_comparing (hc : cell.Conforms type)
    (ha : (Predicate.comparing name position literal relation).accepts type = true) :
    (Predicate.comparing name position literal relation).test cell =
      .ok ((cell.order? literal).any relation.holds) := by
  by_cases hn : cell = .null
  · subst hn
    exact Predicate.test_null
  · obtain ⟨order, hcompare⟩ := exists_ordered hc ha hn
    simp only [order?, Predicate.test, Predicate.comparing, hcompare, Option.any_some]

end Cell

/-! ## Rows -/

/-- Where the cell at a position stands to the literal. -/
def Row.order? (position : Nat) (literal : Literal) (row : Row) : Option Ordering :=
  row[position]?.bind fun cell => cell.order? literal

section Rows

variable {name : String} {position : Nat} {literal : Literal} {relation : Relation}
  {schema : Schema} {row : Row}

/-- The cell that a checked predicate looks at. -/
theorem Schema.Fits.exists_compared (hf : schema.Fits row)
    (h : (Predicate.comparing name position literal relation).checkSchema schema = .ok ()) :
    ∃ cell type, row[position]? = some cell ∧ cell.Conforms type ∧
      (Predicate.comparing name position literal relation).accepts type = true := by
  rw [Predicate.checkSchema] at h
  cases hp : schema[position]? with
  | none => simp only [Predicate.comparing, Schema.type?, hp] at h; cases h
  | some column =>
    obtain ⟨cell, hcell, hc⟩ := hf.exists_cell hp
    simp only [Predicate.comparing, Schema.type?, hp, Option.map_some] at h
    exact ⟨cell, column.type, hcell, hc, Predicate.checkType_eq_ok_iff.mp h⟩

theorem Row.order?_eq_none_iff (hf : schema.Fits row)
    (h : (Predicate.comparing name position literal relation).checkSchema schema = .ok ()) :
    Row.order? position literal row = none ↔ row[position]? = some .null := by
  obtain ⟨cell, type, hcell, hc, ha⟩ := hf.exists_compared h
  rw [Row.order?, hcell, Option.bind_some, Cell.order?_eq_none_iff hc ha, Option.some_inj]

theorem Predicate.holds_comparing (hf : schema.Fits row)
    (h : (Predicate.comparing name position literal relation).checkSchema schema = .ok ()) :
    (Predicate.comparing name position literal relation).holds row =
      (Row.order? position literal row).any relation.holds := by
  obtain ⟨cell, type, hcell, hc, ha⟩ := hf.exists_compared h
  have hevaluate := Predicate.evaluate_of_getElem?
    (p := Predicate.comparing name position literal relation) hcell
  rw [Predicate.holds, hevaluate, Cell.test_comparing hc ha, Row.order?, hcell, Option.bind_some]

end Rows

/-! ## Tables -/

namespace Table

variable {table : Table} {position : Nat} {literal : Literal}

/-- What `<`, `==` and `>` kept, and the rows that have no value at the position. -/
def side (table : Table) (position : Nat) (kept : Relation → Table) : Option Ordering → List Row
  | some .lt => (kept .lt).rows
  | some .eq => (kept .eq).rows
  | some .gt => (kept .gt).rows
  | none => table.rows.filter fun row => row[position]? == some .null

/-- The rows that are in one of two tables, in their order. -/
def eitherOf (table one other : Table) : List Row :=
  table.rows.filter fun row => decide (row ∈ one.rows ∨ row ∈ other.rows)

/-- The tables hold the rows of the table that stand in each of the relations to the literal. -/
structure Partitioned (table : Table) (position : Nat) (literal : Literal)
    (kept : Relation → Table) : Prop where
  inOrder : ∀ relation, (kept relation).rows =
    table.rows.filter fun row => decide (row ∈ (kept relation).rows)
  oneSide : ∀ row ∈ table.rows, ∃! order, row ∈ table.side position kept order
  le : (kept .le).rows = table.eitherOf (kept .lt) (kept .eq)
  ge : (kept .ge).rows = table.eitherOf (kept .gt) (kept .eq)
  ne : (kept .ne).rows = table.eitherOf (kept .lt) (kept .gt)
  null : ∀ row ∈ table.rows, row[position]? = some .null →
    ∀ relation, row ∉ (kept relation).rows
  uncovered : (∃ row ∈ table.rows, row[position]? = some .null) →
    ∃ row ∈ table.rows, row ∉ (kept .ne).rows ∧ row ∉ (kept .eq).rows
  nan : ∀ row ∈ table.rows, row[position]? = some (.float64 .nan) →
    if literal = .float .nan then row ∈ (kept .eq).rows else row ∈ (kept .gt).rows

/-- The rows that stand in a relation to the literal. -/
def related (table : Table) (position : Nat) (literal : Literal) (relation : Relation) : Table :=
  table.withRows
    (table.rows.filter fun row => (Row.order? position literal row).any relation.holds)
    List.filter_sublist.subset

variable {name : String} {relation : Relation}

theorem Conforming.filter_comparing (hf : table.Conforming)
    (h : (Predicate.comparing name position literal relation).checkSchema table.schema = .ok ()) :
    table.filter [.comparing name position literal relation] =
      .ok (table.related position literal relation) := by
  have hcheck : Filter.checkSchema [.comparing name position literal relation] table.schema = .ok () :=
    Filter.checkSchema_cons_eq_ok_iff.mpr ⟨h, rfl⟩
  rw [table.filter_eq_ok hcheck hf]
  refine congrArg Except.ok (Table.ext rfl (List.filter_congr fun row hr => ?_))
  rw [List.all_cons, List.all_nil, Bool.and_true, Predicate.holds_comparing (hf row hr) h]

theorem mem_related {row : Row} :
    row ∈ (table.related position literal relation).rows ↔
      row ∈ table.rows ∧ (Row.order? position literal row).any relation.holds = true :=
  List.mem_filter

theorem mem_side_related (hf : table.Conforming)
    (h : (Predicate.comparing name position literal relation).checkSchema table.schema = .ok ())
    {row : Row} (hr : row ∈ table.rows) (order : Option Ordering) :
    row ∈ table.side position (table.related position literal) order ↔
      Row.order? position literal row = order := by
  have hrelation : ∀ relation : Relation, ∀ side, (∀ o, relation.holds o = true ↔ o = side) →
      (row ∈ (table.related position literal relation).rows ↔
        Row.order? position literal row = some side) := by
    intro relation side hside
    rw [mem_related, Option.any_eq_true]
    constructor
    · rintro ⟨-, o, ho, hholds⟩
      rw [ho, (hside o).mp hholds]
    · exact fun ho => ⟨hr, side, ho, (hside side).mpr rfl⟩
  match order with
  | some .lt => exact hrelation .lt .lt fun o => beq_iff_eq
  | some .eq => exact hrelation .eq .eq fun o => beq_iff_eq
  | some .gt => exact hrelation .gt .gt fun o => beq_iff_eq
  | none =>
    rw [side, List.mem_filter, beq_iff_eq, Row.order?_eq_none_iff (hf row hr) h]
    exact and_iff_right hr

theorem not_mem_related (hf : table.Conforming)
    (h : (Predicate.comparing name position literal relation).checkSchema table.schema = .ok ())
    {row : Row} (hr : row ∈ table.rows) (hnull : row[position]? = some .null) (other : Relation) :
    row ∉ (table.related position literal other).rows := by
  intro hm
  rw [mem_related, (Row.order?_eq_none_iff (hf row hr) h).mpr hnull] at hm
  cases hm.2

theorem rows_related_eq {relation one other : Relation}
    (h : ∀ order, relation.holds order = (one.holds order || other.holds order)) :
    (table.related position literal relation).rows =
      table.eitherOf (table.related position literal one) (table.related position literal other) := by
  refine List.filter_congr fun row hr => ?_
  rw [Bool.eq_iff_iff, decide_eq_true_iff, mem_related, mem_related, and_iff_right hr,
    and_iff_right hr]
  cases Row.order? position literal row with
  | none => simp
  | some order => simp only [Option.any_some, h order, Bool.or_eq_true]

theorem partitioned_related (hf : table.Conforming)
    (h : (Predicate.comparing name position literal relation).checkSchema table.schema = .ok ()) :
    table.Partitioned position literal (table.related position literal) where
  inOrder := by
    intro relation
    refine List.filter_congr fun row hr => ?_
    rw [Bool.eq_iff_iff, decide_eq_true_iff, mem_related, and_iff_right hr]
  oneSide := by
    intro row hr
    refine ⟨Row.order? position literal row, (mem_side_related hf h hr _).mpr rfl, ?_⟩
    intro order ho
    exact ((mem_side_related hf h hr order).mp ho).symm
  le := rows_related_eq fun order => by cases order <;> rfl
  ge := rows_related_eq fun order => by cases order <;> rfl
  ne := rows_related_eq fun order => by cases order <;> rfl
  null := fun row hr hnull => not_mem_related hf h hr hnull
  uncovered := by
    rintro ⟨row, hr, hnull⟩
    exact ⟨row, hr, not_mem_related hf h hr hnull .ne, not_mem_related hf h hr hnull .eq⟩
  nan := by
    intro row hr hnan
    obtain ⟨cell, type, hcell, hc, ha⟩ := (hf row hr).exists_compared h
    have hcell := Option.some.inj (hcell.symm.trans hnan)
    subst hcell
    cases hc with
    | float64 =>
      have hnumeric : literal.isNumeric = true := by
        rw [Predicate.accepts_relation rfl] at ha
        cases literal <;> first | rfl | cases ha
      have horder : Row.order? position literal row =
          if literal = .float .nan then some .eq else some .gt := by
        rw [Row.order?, hnan]
        exact Cell.order?_nan hnumeric
      split
      · next hl =>
        rw [if_pos hl] at horder
        exact mem_related.mpr ⟨hr, by rw [horder]; rfl⟩
      · next hl =>
        rw [if_neg hl] at horder
        exact mem_related.mpr ⟨hr, by rw [horder]; rfl⟩

/-- The relations to a literal partition a table by a column that the literal compares with. -/
theorem relations_partition (table : Table) (hf : table.Conforming) (name : String) (position : Nat)
    (literal : Literal) (relation : Relation)
    (h : (Predicate.comparing name position literal relation).checkSchema table.schema = .ok ()) :
    ∃ kept : Relation → Table,
      (∀ relation, table.filter [.comparing name position literal relation] = .ok (kept relation)) ∧
      table.Partitioned position literal kept :=
  ⟨table.related position literal,
    fun _ => hf.filter_comparing (Predicate.checkSchema_comparing h), partitioned_related hf h⟩

/-- Levels with no number, both zeros, a negative infinity, a level that is missing and 1. -/
def gauges : Table where
  schema := [⟨"gauge", .string⟩, ⟨"level", .float64⟩]
  rows := [[.string "a", .float64 .nan], [.string "b", .float64 (.number true 0)],
    [.null, .float64 (.infinity true)], [.string "d", .null],
    [.string "e", .float64 (.number false 4607182418800017408)],
    [.string "f", .float64 (.number false 0)]]
  rectangular := by decide

theorem relations_partition_gauges :
    let compared := Predicate.comparing "level" 1 (.integer 0)
    (gauges.Conforming ∧ (compared .ne).checkSchema gauges.schema = .ok () ∧
      ∃ kept : Relation → Table, (∀ relation, gauges.filter [compared relation] = .ok (kept relation)) ∧
        gauges.Partitioned 1 (.integer 0) kept) ∧
    (gauges.filter [compared .lt]).map rows = .ok [[.null, .float64 (.infinity true)]] ∧
    (gauges.filter [compared .eq]).map rows = .ok
      [[.string "b", .float64 (.number true 0)], [.string "f", .float64 (.number false 0)]] ∧
    (gauges.filter [compared .ne]).map rows = .ok [[.string "a", .float64 .nan],
      [.null, .float64 (.infinity true)],
      [.string "e", .float64 (.number false 4607182418800017408)]] := by
  intro compared
  have hconf : gauges.Conforming := by decide
  have hcheck : (compared .ne).checkSchema gauges.schema = .ok () := rfl
  refine ⟨⟨hconf, hcheck, ?_⟩, by decide +kernel, by decide +kernel, by decide +kernel⟩
  exact relations_partition gauges hconf "level" 1 (.integer 0) .ne hcheck

end Table

end TableScope
