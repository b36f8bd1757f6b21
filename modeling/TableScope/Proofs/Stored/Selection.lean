import TableScope.Proofs.Stored.Reading

/-! # Reading a selection

A reader that is asked for some columns and a number of rows decodes only these. That is no more than
a saving: `read_eq_select` says that it returns what selecting the columns from the whole table and
keeping its first rows returns, and that it names the first column that the file does not have.
-/
set_option autoImplicit false

namespace TableScope

/-! ## Names -/

theorem distinct_filter_eq_eraseDups (names : List String) (test : String → Bool) :
    (distinct names).filter test = (names.filter test).eraseDups := by
  induction names generalizing test with
  | nil => rfl
  | cons first others ih =>
    have hf := ih fun other => test other && other != first
    rw [distinct, List.filter_cons, List.filter_cons, List.filter_filter, hf]
    cases ht : test first with
    | true =>
      rw [if_pos rfl, if_pos rfl, List.eraseDups_cons, List.filter_filter]
      simp only [bne, Bool.and_comm]
    | false =>
      have hsame : (others.filter fun other => test other && other != first) =
          others.filter test := by
        apply List.filter_congr
        intro other _
        by_cases ho : other = first
        · simp [ho, ht]
        · simp [ho]
      rw [hsame]
      simp

/-- The names that are read are the first appearances among the names that are asked for. -/
theorem distinct_eq_eraseDups (names : List String) : distinct names = names.eraseDups := by
  simpa using distinct_filter_eq_eraseDups names fun _ => true

/-! ## Columns and rows -/

namespace FileContent

/-- Reading some columns and rows is selecting them from the whole table. -/
theorem read_eq_select (content : FileContent) (table : Table) (options : ReadOptions)
    (hread : content.read {} = .ok table) :
    (∀ name, options.columns.find? (fun name => decide (name ∉ table.schema.names)) = some name →
      content.read options = .error (.columnNotFound name)) ∧
    (options.columns ⊆ table.schema.names →
      ∃ selected,
        (if options.columns = [] then .ok table else table.select options.columns.eraseDups) =
            .ok selected ∧
          content.read options = .ok (selected.upTo options.limit)) := by
  obtain ⟨batch, rfl⟩ := exists_table_of_read hread rfl
  obtain ⟨hl, rfl⟩ := Batch.read_all_eq_ok_iff.mp hread
  constructor
  · intro name hf
    refine Batch.read_eq_error (Eq.trans ?_ hf)
    congr 1
    funext other
    have hc : batch.schema.hasColumn other = decide (other ∈ batch.table.schema.names) := by
      rw [Bool.eq_iff_iff, decide_eq_true_iff]
      exact Schema.hasColumn_iff
    rw [hc, decide_not]
  · intro hn
    have hcolumns : ∀ name ∈ options.columns, batch.schema.hasColumn name = true :=
      fun name hm => Schema.hasColumn_iff.mpr (hn hm)
    refine ⟨batch.table.columnsNamed (distinct options.columns), ?_, hl.read_eq options hcolumns⟩
    rw [← distinct_eq_eraseDups, Table.columnsNamed]
    by_cases he : options.columns = []
    · simp [he, distinct]
    · have hne : distinct options.columns ≠ [] := by
        obtain ⟨name, hm⟩ := List.exists_mem_of_ne_nil _ he
        exact List.ne_nil_of_mem (mem_distinct.mpr hm)
      rw [if_neg he, if_neg hne]
      exact Table.select_eq_ok _ _ fun name hm => hcolumns name (mem_distinct.mp hm)

/-- Some entries of a ledger; two columns have the name "due". -/
def ledger : Batch where
  rowCount := 3
  columns := [⟨"due", .date32, [some (19737 : Int32), none, some (19738 : Int32)]⟩,
    ⟨"name", .dictionary .utf8, [some "rent", some "water", none]⟩,
    ⟨"due", .uint16, [some (250 : UInt16), some (40 : UInt16), some (7 : UInt16)]⟩]
  aligned := by simp

theorem ledger_readable : ledger.Readable := by
  simp [Batch.Readable, ledger, StoredType.invalidZone?]

theorem read_ledger : (FileContent.table ledger).read {} = .ok ledger.table :=
  Batch.read_all_eq_ok_iff.mpr ⟨.inr ledger_readable, rfl⟩

theorem read_eq_select_ledger :
    (FileContent.table ledger).read {} = .ok ledger.table ∧
    (["paid", "due"].find? (fun name => decide (name ∉ ledger.table.schema.names)) = some "paid" ∧
      (FileContent.table ledger).read ⟨["paid", "due"], none⟩ = .error (.columnNotFound "paid")) ∧
    (["name", "due", "name"] ⊆ ledger.table.schema.names ∧
      ∃ selected, ledger.table.select ["name", "due"] = .ok selected ∧
        (FileContent.table ledger).read ⟨["name", "due", "name"], some 2⟩ =
          .ok (selected.upTo (some 2))) := by
  have hmissing : ["paid", "due"].find? (fun name => decide (name ∉ ledger.table.schema.names)) =
      some "paid" := by decide
  have hn : ["name", "due", "name"] ⊆ ledger.table.schema.names := by decide
  refine ⟨read_ledger, ⟨hmissing, ?_⟩, hn, ?_⟩
  · exact (read_eq_select _ _ ⟨["paid", "due"], none⟩ read_ledger).1 "paid" hmissing
  · exact (read_eq_select _ _ ⟨["name", "due", "name"], some 2⟩ read_ledger).2 hn

end FileContent

end TableScope
