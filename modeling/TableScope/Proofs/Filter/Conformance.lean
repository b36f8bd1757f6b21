import TableScope.Filter.Predicate

/-! # Declared types and evaluation

A predicate is checked against the declared types before any row is read, and meets the kinds of the
cells when it is evaluated. On cells that conform to their declared types the check is exact: what it
accepts is evaluated without an error, and what it refuses is a mismatch on every value. The one
exception is text tests on `temporal` and `other` columns, which are refused although their cells are
strings (`Predicate.TestsHeldText`).
-/
set_option autoImplicit false

namespace TableScope

instance (cell : Cell) (type : ColumnType) : Decidable (cell.Conforms type) :=
  match cell with
  | .null => isTrue (.null type)
  | .boolean value =>
    decidable_of_iff (type = .boolean) ⟨fun h => h ▸ .boolean value, fun h => by cases h; rfl⟩
  | .int64 value =>
    decidable_of_iff (type = .int64) ⟨fun h => h ▸ .int64 value, fun h => by cases h; rfl⟩
  | .uint64 value =>
    decidable_of_iff (type = .uint64) ⟨fun h => h ▸ .uint64 value, fun h => by cases h; rfl⟩
  | .float64 value =>
    decidable_of_iff (type = .float64) ⟨fun h => h ▸ .float64 value, fun h => by cases h; rfl⟩
  | .string value =>
    decidable_of_iff (type.isTextual = true) ⟨.string value type, fun | .string _ _ h => h⟩

instance (schema : Schema) (row : Row) : Decidable (schema.Fits row) :=
  decidable_of_iff
    (row.length = schema.length ∧
      ∀ entry ∈ row.zip schema, entry.1.Conforms entry.2.type)
    (and_congr_right fun _ => Prod.forall)

theorem Schema.Fits.exists_cell {schema : Schema} {row : Row} {position : Nat} {column : Column}
    (hf : schema.Fits row) (hp : schema[position]? = some column) :
    ∃ cell, row[position]? = some cell ∧ cell.Conforms column.type := by
  obtain ⟨hlength, hcells⟩ := hf
  obtain ⟨hlt, hcolumn⟩ := List.getElem?_eq_some_iff.mp hp
  have hcell : row[position]? = some row[position] := List.getElem?_eq_getElem (by omega)
  have hmem : (row[position], column) ∈ row.zip schema := by
    apply List.mem_of_getElem? (i := position)
    rw [List.getElem?_zip_eq_some]
    exact ⟨hcell, hp⟩
  exact ⟨row[position], hcell, hcells _ _ hmem⟩

namespace Predicate

variable {p : Predicate} {relation : Relation} {textTest : TextTest} {cell : Cell} {type : ColumnType}

/-! ## Cells -/

theorem accepts_relation (ho : p.operator = .relation relation) :
    p.accepts type = (type == .null || match p.literal with
      | .boolean _ => type == .boolean
      | .string _ => type.isTextual
      | .integer _ | .float _ => type.isNumeric) := by
  unfold accepts
  rw [ho]
  cases type <;> cases p.literal <;> rfl

theorem accepts_textTest (ho : p.operator = .textTest textTest) :
    p.accepts type = (type == .null || type == .string) := by
  unfold accepts
  rw [ho]
  cases type <;> rfl

/-- On a value, comparing gives an order if the literal is accepted, and is impossible if not. -/
theorem compare_of_conforms (ho : p.operator = .relation relation) (hc : cell.Conforms type)
    (hn : cell ≠ .null) :
    if p.accepts type then ∃ order, cell.compare p.literal = .ordered order
    else cell.compare p.literal = .incomparable := by
  rw [accepts_relation ho]
  cases hc with
  | null => exact absurd rfl hn
  | boolean value => cases p.literal <;> simp [Cell.compare, ColumnType.isTextual, ColumnType.isNumeric]
  | int64 value => cases p.literal <;> simp [Cell.compare, ColumnType.isTextual, ColumnType.isNumeric]
  | uint64 value => cases p.literal <;> simp [Cell.compare, ColumnType.isTextual, ColumnType.isNumeric]
  | float64 value => cases p.literal <;> simp [Cell.compare, ColumnType.isTextual, ColumnType.isNumeric]
  | string value type ht =>
    cases type <;> cases ht <;> cases p.literal <;>
      simp [Cell.compare, ColumnType.isTextual, ColumnType.isNumeric]

theorem test_null : p.test .null = .ok false := by
  unfold test
  cases p.operator <;> rfl

theorem test_of_accepts (hc : cell.Conforms type) (ha : p.accepts type = true) :
    ∃ holds, p.test cell = .ok holds := by
  by_cases hn : cell = .null
  · subst hn
    exact ⟨false, test_null⟩
  cases ho : p.operator with
  | relation relation =>
    have h := compare_of_conforms ho hc hn
    rw [if_pos ha] at h
    obtain ⟨order, h⟩ := h
    exact ⟨relation.holds order, by simp [test, ho, h]⟩
  | textTest textTest =>
    rw [accepts_textTest ho] at ha
    cases hc with
    | null => exact absurd rfl hn
    | string value => exact ⟨textTest.holds value.toList p.literal.needle, by simp only [test, ho]⟩
    | boolean | int64 | uint64 | float64 => simp at ha

/-- Text tests look into strings only, and the columns that declare strings are not all that hold
them. -/
def TestsHeldText (p : Predicate) (type : ColumnType) : Prop :=
  (∃ textTest, p.operator = .textTest textTest) ∧ (type = .temporal ∨ type = .other)

theorem test_of_refused (hc : cell.Conforms type) (hn : cell ≠ .null) (hr : p.accepts type = false)
    (ht : ¬ p.TestsHeldText type) :
    ∃ kind, cell.type? = some kind ∧ p.test cell = .error (p.mismatch kind) := by
  obtain ⟨kind, hk⟩ : ∃ kind, cell.type? = some kind := by
    cases cell with
    | null => exact absurd rfl hn
    | boolean | int64 | uint64 | float64 | string => exact ⟨_, rfl⟩
  refine ⟨kind, hk, ?_⟩
  cases ho : p.operator with
  | relation relation =>
    have h := compare_of_conforms ho hc hn
    rw [if_neg (by rw [hr]; exact Bool.false_ne_true)] at h
    simp [test, ho, h, hk]
  | textTest textTest =>
    rw [accepts_textTest ho] at hr
    cases hc with
    | null => exact absurd rfl hn
    | string value type htext =>
      -- a type that holds strings, declares none and is no exception
      have hne : ¬ (type = .temporal ∨ type = .other) := fun h => ht ⟨⟨textTest, ho⟩, h⟩
      cases type <;> simp_all [ColumnType.isTextual]
    | boolean value => simp [test, ho, hk]
    | int64 value => simp [test, ho, hk]
    | uint64 value => simp [test, ho, hk]
    | float64 value => simp [test, ho, hk]

theorem test_of_testsHeldText (hc : cell.Conforms type) (ht : p.TestsHeldText type) :
    ∃ holds, p.test cell = .ok holds := by
  obtain ⟨⟨textTest, ho⟩, hty⟩ := ht
  cases hc with
  | null => exact ⟨false, test_null⟩
  | string value => exact ⟨textTest.holds value.toList p.literal.needle, by simp only [test, ho]⟩
  | boolean | int64 | uint64 | float64 => simp at hty

theorem accepts_of_testsHeldText (ht : p.TestsHeldText type) : p.accepts type = false := by
  obtain ⟨⟨textTest, ho⟩, hty⟩ := ht
  rw [accepts_textTest ho]
  rcases hty with rfl | rfl <;> rfl

/-! ## Rows -/

variable {schema : Schema} {row : Row}

theorem checkType_eq_ok_iff : p.checkType type = .ok () ↔ p.accepts type = true := by
  unfold checkType
  cases p.accepts type <;> simp

theorem checkType_eq_error (h : p.accepts type = false) :
    p.checkType type = .error (p.mismatch type) := by
  rw [checkType, h]
  rfl

theorem evaluate_of_getElem? (h : row[p.position]? = some cell) : p.evaluate row = p.test cell := by
  rw [evaluate, h]

theorem evaluate_of_checkSchema (hf : schema.Fits row) (hs : p.checkSchema schema = .ok ()) :
    ∃ holds, p.evaluate row = .ok holds := by
  cases hp : schema[p.position]? with
  | none =>
    rw [checkSchema, Schema.type?, hp] at hs
    cases hs
  | some column =>
    rw [checkSchema, Schema.type?, hp] at hs
    obtain ⟨cell, hcell, hc⟩ := hf.exists_cell hp
    rw [evaluate_of_getElem? hcell]
    exact test_of_accepts hc (checkType_eq_ok_iff.mp hs)

end Predicate

namespace Filter

theorem checkSchema_cons_eq_ok_iff {p : Predicate} {others : Filter} {schema : Schema} :
    checkSchema (p :: others) schema = .ok () ↔
      p.checkSchema schema = .ok () ∧ checkSchema others schema = .ok () := by
  rw [checkSchema]
  cases p.checkSchema schema with
  | error e => exact ⟨nofun, fun h => nomatch h.1⟩
  | ok u => exact ⟨fun h => ⟨rfl, h⟩, fun h => h.2⟩

theorem evaluate_of_checkSchema {predicates : Filter} {schema : Schema} {row : Row}
    (hf : schema.Fits row) (hs : checkSchema predicates schema = .ok ()) :
    ∃ holds, evaluate predicates row = .ok holds := by
  induction predicates with
  | nil => exact ⟨true, rfl⟩
  | cons p others ih =>
    obtain ⟨hp, ho⟩ := checkSchema_cons_eq_ok_iff.mp hs
    obtain ⟨holds, hh⟩ := Predicate.evaluate_of_checkSchema hf hp
    obtain ⟨othersHold, hoh⟩ := ih ho
    refine ⟨holds && othersHold, ?_⟩
    rw [evaluate, hh, hoh]
    rfl

/-- The check against the declared types and the evaluation of rows agree, in both directions. -/
theorem check_agrees_with_evaluation :
    (∀ (p : Predicate) (schema : Schema) (row : Row), schema.Fits row →
      p.checkSchema schema = .ok () → ∃ holds, p.evaluate row = .ok holds) ∧
    (∀ (predicates : Filter) (schema : Schema) (row : Row), schema.Fits row →
      predicates.checkSchema schema = .ok () → ∃ holds, predicates.evaluate row = .ok holds) ∧
    (∀ (p : Predicate) (type : ColumnType), p.checkType type ≠ .ok () → ¬ p.TestsHeldText type →
      ∀ (row : Row) (cell : Cell), row[p.position]? = some cell →
        cell ≠ .null → cell.Conforms type →
        ∃ kind, cell.type? = some kind ∧
          p.evaluate row = .error (.typeMismatch p.column p.operator kind p.literal)) ∧
    (∀ (p : Predicate) (type : ColumnType), p.TestsHeldText type →
      p.checkType type = .error (.typeMismatch p.column p.operator type p.literal) ∧
        ∀ (row : Row) (cell : Cell), row[p.position]? = some cell → cell.Conforms type →
          ∃ holds, p.evaluate row = .ok holds) := by
  refine ⟨?_, ?_, ?_, ?_⟩
  · exact fun p schema row hf hs => Predicate.evaluate_of_checkSchema hf hs
  · exact fun predicates schema row hf hs => evaluate_of_checkSchema hf hs
  · intro p type hr ht row cell hcell hn hc
    have ha : p.accepts type = false := Bool.eq_false_iff.mpr (mt Predicate.checkType_eq_ok_iff.mpr hr)
    rw [Predicate.evaluate_of_getElem? hcell]
    exact Predicate.test_of_refused hc hn ha ht
  · intro p type ht
    refine ⟨Predicate.checkType_eq_error (Predicate.accepts_of_testsHeldText ht), ?_⟩
    intro row cell hcell hc
    rw [Predicate.evaluate_of_getElem? hcell]
    exact Predicate.test_of_testsHeldText hc ht

theorem check_agrees_with_evaluation_count :
    let least : Predicate := ⟨"count", 0, .relation .ge, .integer 3⟩
    let prefixed : Predicate := ⟨"day", 0, .textTest .startsWith, .integer 2024⟩
    (Schema.Fits [⟨"count", .uint64⟩] [.uint64 7] ∧ least.checkSchema [⟨"count", .uint64⟩] = .ok () ∧
      ∃ holds, least.evaluate [.uint64 7] = .ok holds) ∧
    (least.checkType .other ≠ .ok () ∧ ¬ least.TestsHeldText .other ∧
      ∃ kind, Cell.type? (.string "7") = some kind ∧
        least.evaluate [.string "7"] = .error (.typeMismatch "count" (.relation .ge) kind (.integer 3))) ∧
    (prefixed.TestsHeldText .temporal ∧ prefixed.checkType .temporal ≠ .ok () ∧
      ∃ holds, prefixed.evaluate [.string "2024-02-29"] = .ok holds) := by
  intro least prefixed
  obtain ⟨passed, -, refused, exempt⟩ := check_agrees_with_evaluation
  have hfits : Schema.Fits [⟨"count", .uint64⟩] [.uint64 7] := by
    refine ⟨rfl, ?_⟩
    intro cell column h
    cases List.mem_singleton.mp h
    exact .uint64 7
  have hleast : ¬ least.TestsHeldText .other := fun h => nomatch h.1
  have hprefixed : prefixed.TestsHeldText .temporal := ⟨⟨_, rfl⟩, .inl rfl⟩
  have hday : Cell.Conforms (.string "2024-02-29") .temporal := .string _ _ rfl
  refine ⟨⟨hfits, rfl, ?_⟩, ⟨nofun, hleast, ?_⟩, hprefixed, nofun, ?_⟩
  · exact passed least _ _ hfits rfl
  · exact refused least .other nofun hleast [.string "7"] _ rfl nofun (.string _ _ rfl)
  · exact (exempt prefixed .temporal hprefixed).2 _ _ rfl hday

end Filter

end TableScope
