import TableScope.Proofs.Stored.Moments
import TableScope.Proofs.Stored.Reading

/-! # Conditions on instants with a zone

Instants of one column have one offset, so that their local texts are ordered in time, and what follows
these decides where one is a proper start of the other. A sign leaves the order as it is. A `Z` turns it
round (`zoned_not_chronological`): of two instants of one second, one of which has a fraction that begins
with that of the other, the later is taken for the earlier. There is no other case, and a condition on a
column without this case keeps the rows of the instants that it says (`compare_zoned`).
-/
set_option autoImplicit false

namespace TableScope

namespace StoredType

/-- Different instants of one second, shown with a `Z`, of which one has a fraction that is written as a
start of that of the other. -/
def Confused (unit : TimeUnit) (zone : Option String) (u v : Int) : Prop :=
  (Zone.of zone).IsUniversal ∧ u ≠ v ∧ unit.Nested u v

instance (unit : TimeUnit) (zone : Option String) (u v : Int) : Decidable (Confused unit zone u v) :=
  inferInstanceAs (Decidable (_ ∧ _))

section Zoned

variable {unit : TimeUnit} {zone : Option String} {u v : Int64} {a b : DateTime}

theorem compare_zoned_text (ha : DateTime.ofCount? unit u.toInt (Zone.of zone).offset = some a)
    (hb : DateTime.ofCount? unit v.toInt (Zone.of zone).offset = some b)
    (ha' : a.date.HasShortYear) (hb' : b.date.HasShortYear) :
    Text.compare (a.text ++ (Zone.of zone).suffix) (b.text ++ (Zone.of zone).suffix) =
      if Confused unit zone u.toInt v.toInt then (compare u.toInt v.toInt).swap
      else compare u.toInt v.toInt := by
  by_cases hz : (Zone.of zone).IsUniversal
  · rw [Zone.suffix_of_isUniversal hz, DateTime.compare_text_above ha hb ha' hb']
    by_cases huv : u.toInt = v.toInt
    · rw [compare_eq_iff_eq.mpr huv]
      exact (ite_self Ordering.eq).trans (ite_self Ordering.eq).symm
    · simp only [Confused, hz, ne_eq, huv, not_false_eq_true, true_and]
  · rw [if_neg fun h : Confused unit zone u.toInt v.toInt => hz h.1]
    exact DateTime.compare_text_below ha hb ha' hb' (Zone.head?_suffix hz)

theorem compare_timestamp (hu : (timestamp unit zone).InRange u)
    (hv : (timestamp unit zone).InRange v) :
    ((timestamp unit zone).cell u).compare (Literal.ofText ((timestamp unit zone).cell v).text) =
      .ordered (if Confused unit zone u.toInt v.toInt then (compare u.toInt v.toInt).swap
        else compare u.toInt v.toInt) := by
  obtain ⟨a, ha, ha'⟩ := hu
  obtain ⟨b, hb, hb'⟩ := hv
  have hread := DateTime.ofText_text_append hb' (s := (Zone.of zone).suffix) Zone.mem_suffix
  have horder := compare_zoned_text ha hb ha' hb'
  exact (compare_of_texts (cell_timestamp ha) (cell_timestamp hb) hread horder).2

theorem mem_text_cell (hv : (timestamp unit zone).InRange v) :
    ∀ c ∈ ((timestamp unit zone).cell v).text, c ∈ shownChars := by
  obtain ⟨b, hb, hb'⟩ := hv
  rw [cell_timestamp hb, Cell.text, String.toList_ofList]
  exact List.forall_mem_append.mpr ⟨DateTime.mem_shownChars hb', Zone.mem_suffix⟩

theorem ofText_cell (hv : (timestamp unit zone).InRange v) :
    Literal.ofText ((timestamp unit zone).cell v).text =
      .string (String.ofList ((timestamp unit zone).cell v).text) := by
  obtain ⟨b, hb, hb'⟩ := hv
  rw [cell_timestamp hb, Cell.text, String.toList_ofList]
  exact DateTime.ofText_text_append hb' Zone.mem_suffix

/-- Comparing the texts of cells comes to the relation of the counts. -/
theorem holds_cell (hu : (timestamp unit zone).InRange u) (hv : (timestamp unit zone).InRange v)
    (hclear : ¬ Confused unit zone u.toInt v.toInt) (relation : Relation) :
    (((timestamp unit zone).cell u).string?.any fun s =>
      relation.holds (Text.compare s.toList ((timestamp unit zone).cell v).text)) =
      decide (relation.Relates u.toInt v.toInt) := by
  obtain ⟨a, ha, ha'⟩ := hu
  obtain ⟨b, hb, hb'⟩ := hv
  rw [cell_timestamp ha, cell_timestamp hb, Cell.text, Cell.string?, Option.any_some,
    String.toList_ofList, String.toList_ofList, compare_zoned_text ha hb ha' hb', if_neg hclear]
  exact relation.holds_compare u.toInt v.toInt

end Zoned

end StoredType

theorem mem_of_getD_eq_some {α : Type} {values : List (Option α)} {i : Nat} {u : α}
    (h : values.getD i none = some u) : some u ∈ values := by
  rw [List.getD_eq_getElem?_getD] at h
  cases hget : values[i]? with
  | none => rw [hget] at h; cases h
  | some value =>
    rw [hget, Option.getD_some] at h
    exact h ▸ List.mem_of_getElem? hget

theorem StoredColumn.cellAt_eq (stored : StoredColumn) (i : Nat) :
    stored.cellAt i = (stored.values.getD i none).elim .null stored.type.cell := by
  rw [cellAt, cells, List.getD_eq_getElem?_getD, List.getElem?_map, List.getD_eq_getElem?_getD]
  cases stored.values[i]? <;> rfl

/-- The rows of a batch at the places that pass a test. -/
def Batch.rowsWhere (batch : Batch) (test : Nat → Bool) : List Row :=
  ((List.range batch.rowCount).filter test).map (rowAt batch.columns)

/-- The condition is understood, and filtering the table by it keeps the rows of the batch at the places
that pass a test. -/
def Batch.Selects (batch : Batch) (table : Table) (condition : Condition) (place : Nat → Bool) :
    Prop :=
  ∃ predicates kept, Filter.build table.schema [condition.text] = .ok predicates ∧
    table.filter predicates = .ok kept ∧ kept.schema = table.schema ∧
    kept.rows = batch.rowsWhere place

theorem Batch.filter_cellRows (batch : Batch) {test : Row → Bool} {place : Nat → Bool}
    (h : ∀ i, test (rowAt batch.columns i) = place i) :
    batch.cellRows.filter test = batch.rowsWhere place := by
  rw [cellRows, rowsWhere, List.filter_map]
  exact congrArg (List.map _) (List.filter_congr fun i _ => h i)

namespace StoredType

section Zoned

variable {unit : TimeUnit} {zone : Option String} {v : Int64}

/-- A condition with the text of an instant keeps the rows whose instant stands in the relation to it. -/
theorem select_instants {batch : Batch} {table : Table} {name : String} {values : List (Option Int64)}
    {position : Nat} (hread : (FileContent.table batch).read {} = .ok table)
    (hcolumn : batch.columns[position]? = some ⟨name, .timestamp unit zone, values⟩)
    (hposition : table.schema.position? name = some position)
    (htrimmed : Text.Trimmed name.toList) (hfree : Operator.Free name.toList)
    (hv : (timestamp unit zone).InRange v)
    (hvalues : ∀ u : Int64, some u ∈ values →
      (timestamp unit zone).InRange u ∧ ¬ Confused unit zone u.toInt v.toInt)
    (relation : Relation) :
    batch.Selects table
      ⟨name, .relation relation, String.ofList ((timestamp unit zone).cell v).text⟩
      fun i => (values.getD i none).any fun u => decide (relation.Relates u.toInt v.toInt) := by
  let condition : Condition :=
    ⟨name, .relation relation, String.ofList ((timestamp unit zone).cell v).text⟩
  obtain ⟨-, rfl⟩ := Batch.read_all_eq_ok_iff.mp hread
  have hshown := mem_text_cell hv
  have hblank := fun c hc => isBlank_of_mem_shownChars c (hshown c hc)
  have hcolumn' : batch.table.schema[position]? = some ⟨name, .temporal⟩ := by
    rw [show batch.table.schema = batch.schema from rfl, Batch.schema, List.getElem?_map, hcolumn]
    rfl
  have htext : condition.literal.toList = ((timestamp unit zone).cell v).text :=
    String.toList_ofList
  obtain ⟨predicates, hbuild, hfilter⟩ := batch.table.keeps_text batch.table_conforming htrimmed hfree
    hposition hcolumn' rfl relation (s := condition.literal)
    (by
      rw [htext]
      exact ⟨fun c hc => hblank c (List.mem_of_head? hc), fun c hc => hblank c (List.mem_of_getLast? hc)⟩)
    (by rw [htext]; exact Operator.free_of_forall_shown hshown)
    (by rw [htext]; exact ofText_cell hv)
  refine ⟨predicates, _, hbuild, hfilter, rfl, Batch.filter_cellRows batch fun i => ?_⟩
  rw [Batch.rowAt, List.getElem?_map, hcolumn, Option.map_some, Option.any_some,
    StoredColumn.cellAt_eq, htext]
  change (Option.elim (values.getD i none) Cell.null (timestamp unit zone).cell).string?.any _ = _
  cases hi : values.getD i none with
  | none => rfl
  | some u =>
    obtain ⟨hu, hclear⟩ := hvalues u (mem_of_getD_eq_some hi)
    exact holds_cell hu hv hclear relation

end Zoned

/-- Instants of a column are compared in time unless a `Z` makes them confused, and then the other way
round; conditions keep the rows that they say where no value is confused with theirs. -/
theorem compare_zoned (unit : TimeUnit) (zone : Option String) (v : Int64)
    (hv : (timestamp unit zone).InRange v) :
    (∀ u : Int64, (timestamp unit zone).InRange u →
      ((timestamp unit zone).cell u).compare (Literal.ofText ((timestamp unit zone).cell v).text) =
        .ordered (if Confused unit zone u.toInt v.toInt then (compare u.toInt v.toInt).swap
          else compare u.toInt v.toInt)) ∧
    ∀ (batch : Batch) (table : Table) (name : String) (values : List (Option Int64)) (position : Nat)
      (relation : Relation),
      (FileContent.table batch).read {} = .ok table →
      batch.columns[position]? = some ⟨name, .timestamp unit zone, values⟩ →
      table.schema.position? name = some position →
      Text.Trimmed name.toList → Operator.Free name.toList →
      (∀ u : Int64, some u ∈ values →
        (timestamp unit zone).InRange u ∧ ¬ Confused unit zone u.toInt v.toInt) →
      batch.Selects table
        ⟨name, .relation relation, String.ofList ((timestamp unit zone).cell v).text⟩
        fun i => (values.getD i none).any fun u => decide (relation.Relates u.toInt v.toInt) :=
  ⟨fun _ hu => compare_timestamp hu hv,
    fun _ _ _ _ _ relation hread hcolumn hposition htrimmed hfree hvalues =>
      select_instants hread hcolumn hposition htrimmed hfree hv hvalues relation⟩

/-- Instants of one second, without a fraction and with fractions of which one begins another. -/
def departures : Batch where
  rowCount := 4
  columns := [⟨"left", .timestamp .microsecond (some "-03:30"),
    [some (1500000 : Int64), none, some (1000000 : Int64), some (1500001 : Int64)]⟩]
  aligned := by simp

theorem compare_zoned_departures :
    let universal : StoredType := .timestamp .millisecond (some "+00:00")
    let newfoundland : StoredType := .timestamp .microsecond (some "-03:30")
    (universal.InRange (0 : Int64) ∧ universal.InRange (1 : Int64) ∧
      Confused .millisecond (some "+00:00") (0 : Int64).toInt (1 : Int64).toInt ∧
      (universal.cell (0 : Int64)).compare (Literal.ofText (universal.cell (1 : Int64)).text) =
        .ordered .gt) ∧
    ∃ table predicates kept, (FileContent.table departures).read {} = .ok table ∧
      table.schema.position? "left" = some 0 ∧ newfoundland.InRange (1500000 : Int64) ∧
      Filter.build table.schema ["left > 1969-12-31T20:30:01.500-03:30"] = .ok predicates ∧
      table.filter predicates = .ok kept ∧
      kept.rows = [[.string "1969-12-31T20:30:01.500001-03:30"]] := by
  intro universal newfoundland
  have hzero : DateTime.ofCount? .millisecond 0 (Zone.of (some "+00:00")).offset =
      some ⟨⟨1970, 1, 1⟩, ⟨0, 0⟩⟩ := by decide +kernel
  have hone : DateTime.ofCount? .millisecond 1 (Zone.of (some "+00:00")).offset =
      some ⟨⟨1970, 1, 1⟩, ⟨0, 1000000⟩⟩ := by decide +kernel
  have hu : universal.InRange (0 : Int64) := ⟨_, hzero, by decide, by decide⟩
  have hv : universal.InRange (1 : Int64) := ⟨_, hone, by decide, by decide⟩
  have hconfused : Confused .millisecond (some "+00:00") (0 : Int64).toInt (1 : Int64).toInt := by
    decide +kernel
  have hswap : (compare (0 : Int64).toInt (1 : Int64).toInt).swap = .gt := by decide +kernel
  have hreversed := (compare_zoned .millisecond (some "+00:00") 1 hv).1 0 hu
  rw [if_pos hconfused, hswap] at hreversed
  refine ⟨⟨hu, hv, hconfused, hreversed⟩, ?_⟩
  have hsign : ¬ (Zone.of (some "-03:30")).IsUniversal := by decide +kernel
  have hread : (FileContent.table departures).read {} = .ok departures.table := by
    refine Batch.read_all_eq_ok_iff.mpr ⟨.inr ?_, rfl⟩
    intro stored hm
    rw [List.mem_singleton.mp hm]
    decide +kernel
  have hrange : newfoundland.InRange (1500000 : Int64) :=
    ⟨⟨⟨1969, 12, 31⟩, ⟨73801, 500000000⟩⟩, by decide +kernel, by decide, by decide⟩
  have hrange' : newfoundland.InRange (1000000 : Int64) :=
    ⟨⟨⟨1969, 12, 31⟩, ⟨73801, 0⟩⟩, by decide +kernel, by decide, by decide⟩
  have hrange'' : newfoundland.InRange (1500001 : Int64) :=
    ⟨⟨⟨1969, 12, 31⟩, ⟨73801, 500001000⟩⟩, by decide +kernel, by decide, by decide⟩
  have hvalues : ∀ u : Int64, some u ∈ [some (1500000 : Int64), none, some (1000000 : Int64),
      some (1500001 : Int64)] → newfoundland.InRange u ∧
        ¬ Confused .microsecond (some "-03:30") u.toInt (1500000 : Int64).toInt := by
    intro u hm
    refine ⟨?_, fun h => hsign h.1⟩
    simp only [List.mem_cons, Option.some.injEq, reduceCtorEq, List.not_mem_nil, or_false,
      false_or] at hm
    rcases hm with rfl | rfl | rfl
    · exact hrange
    · exact hrange'
    · exact hrange''
  have hselect := (compare_zoned .microsecond (some "-03:30") 1500000 hrange).2 departures
    departures.table "left" _ 0 .gt hread rfl rfl (by decide) (Operator.free_iff.mpr (by decide)) hvalues
  obtain ⟨predicates, kept, hbuild, hfilter, -, hrows⟩ := hselect
  have htext : Condition.text ⟨"left", .relation .gt,
      String.ofList (newfoundland.cell (1500000 : Int64)).text⟩ =
        "left > 1969-12-31T20:30:01.500-03:30" := by decide +kernel
  have hkept : (departures.rowsWhere fun i =>
      ([some (1500000 : Int64), none, some (1000000 : Int64), some (1500001 : Int64)].getD i none).any
        fun u => decide (Relation.gt.Relates u.toInt (1500000 : Int64).toInt)) =
      [[.string "1969-12-31T20:30:01.500001-03:30"]] := by decide +kernel
  exact ⟨departures.table, predicates, kept, hread, rfl, hrange, htext ▸ hbuild, hfilter,
    hrows.trans hkept⟩

/-- Instants in range are not always compared in time: of two that are shown with a `Z`, one whole second
and one a millisecond after it, the first is taken for the later. -/
theorem zoned_not_chronological :
    ¬ ∀ (unit : TimeUnit) (zone : Option String) (u v : Int64),
      (timestamp unit zone).invalidZone? = none →
      (timestamp unit zone).InRange u → (timestamp unit zone).InRange v →
      ((timestamp unit zone).cell u).compare (Literal.ofText ((timestamp unit zone).cell v).text) =
        .ordered (compare u.toInt v.toInt) := by
  intro hall
  have hzero : (timestamp .millisecond (some "+00:00")).InRange (0 : Int64) :=
    ⟨⟨⟨1970, 1, 1⟩, ⟨0, 0⟩⟩, by decide +kernel, by decide, by decide⟩
  have hone : (timestamp .millisecond (some "+00:00")).InRange (1 : Int64) :=
    ⟨⟨⟨1970, 1, 1⟩, ⟨0, 1000000⟩⟩, by decide +kernel, by decide, by decide⟩
  have hordered := hall .millisecond (some "+00:00") 0 1 (by decide +kernel) hzero hone
  have hreversed : ((timestamp .millisecond (some "+00:00")).cell (0 : Int64)).compare
      (Literal.ofText ((timestamp .millisecond (some "+00:00")).cell (1 : Int64)).text) =
        .ordered .gt := by decide +kernel
  rw [hreversed] at hordered
  exact absurd hordered (by decide)

end StoredType

end TableScope
