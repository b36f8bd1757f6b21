import TableScope.Proofs.Filter.Meaning
import TableScope.Proofs.Text.Bytes

/-! # Text tests and the order of strings

A column of strings is tested for a part of its texts and compared with a string. A text that equals the
string starts and ends with it (`Operator.Relates.of_eq`), and one that starts with it holds it and is
not below it (`Operator.Relates.of_startsWith`), so the string keeps fewer rows by one operator than by
another (`text_tests_consistent`). The order is that of the bytes of texts.
-/
set_option autoImplicit false

namespace TableScope

/-! ## Strings -/

theorem String.le_of_prefix {v s : String} (h : s.toList <+: v.toList) : s ≤ v :=
  not_lt.mp fun hlt => List.IsPrefix.le h (String.lt_iff_toList_lt.mp hlt)

theorem Cell.compare_string (v s : String) :
    (Cell.string v).compare (.string s) =
      .ordered (Ord.compare (Text.bytes v) (Text.bytes s)) := by
  rw [compare, Text.compare_bytes]

namespace Operator.Relates

variable {v s : String}

theorem of_eq (h : (relation .eq).Relates v s) (test : TextTest) :
    (textTest test).Relates v s := by
  obtain rfl : v = s := h
  cases test with
  | contains => exact List.infix_rfl
  | startsWith => exact List.prefix_rfl
  | endsWith => exact List.suffix_rfl

theorem of_startsWith (h : (textTest .startsWith).Relates v s) :
    (textTest .contains).Relates v s ∧ (relation .ge).Relates v s :=
  ⟨List.IsPrefix.isInfix h, String.le_of_prefix h⟩

theorem of_endsWith (h : (textTest .endsWith).Relates v s) : (textTest .contains).Relates v s :=
  List.IsSuffix.isInfix h

/-- The empty string stands everywhere. -/
theorem of_empty (test : TextTest) (v : String) : (textTest test).Relates v "" := by
  cases test with
  | contains => exact List.nil_infix
  | startsWith => exact List.nil_prefix
  | endsWith => exact List.nil_suffix

end Operator.Relates

/-! ## Rows -/

namespace Table

/-- The rows whose string at the position relates to a string. -/
def matching (table : Table) (position : Nat) (s : String) (op : Operator) : Table :=
  table.withRows (table.rows.filter fun row => row[position]?.any fun cell =>
    cell.string?.any fun v => decide (op.Relates v s)) List.filter_sublist.subset

variable {table : Table} {position : Nat} {column : Column} {raw s : String} {op other : Operator}

theorem matching_sublist (h : ∀ v : String, op.Relates v s → other.Relates v s) :
    (table.matching position s op).rows.Sublist (table.matching position s other).rows := by
  apply List.monotone_filter_right
  intro row
  simp only [Option.any_eq_true, decide_eq_true_eq]
  rintro ⟨cell, hcell, v, hv, hop⟩
  exact ⟨cell, hcell, v, hv, h v hop⟩

/-- The empty string is found in all cells but nulls. -/
theorem rows_matching_empty (hconf : table.Conforming)
    (hcolumn : table.schema[position]? = some column) (htype : column.type = .string)
    (test : TextTest) :
    (table.matching position "" (.textTest test)).rows =
      table.rows.filter fun row => decide (row[position]? ≠ some .null) := by
  apply List.filter_congr
  intro row hrow
  obtain ⟨cell, hcell, hc⟩ := (hconf row hrow).exists_cell hcolumn
  rw [hcell, Option.any_some]
  rw [htype] at hc
  cases hc with
  | null => rfl
  | string v type htext =>
    rw [Cell.string?, Option.any_some, decide_eq_true (Operator.Relates.of_empty test v)]
    rfl

/-- A relation keeps the rows whose string has its place in the order of bytes. -/
theorem rows_matching_relation (relation : Relation) :
    (table.matching position s (.relation relation)).rows = table.rows.filter fun row =>
      row[position]?.any fun cell => cell.string?.any fun v =>
        relation.holds (Ord.compare (Text.bytes v) (Text.bytes s)) := by
  simp only [← Text.compare_bytes, relation.holds_compare_text]
  rfl

theorem filter_matching (hconf : table.Conforming) (hcolumn : table.schema[position]? = some column)
    (htype : column.type = .string) (hraw : Literal.ofText raw.toList = .string s) (name : String) :
    table.filter [⟨name, position, op, .ofText raw.toList⟩] =
      .ok (table.matching position s op) := by
  apply filter_of_test hconf hcolumn
  · rw [htype]
    cases op with
    | relation r => rw [Predicate.accepts_relation rfl, hraw]; rfl
    | textTest t => exact Predicate.accepts_textTest rfl
  · exact fun cell hc => Predicate.test_string hraw (htype ▸ hc)

/-- One string keeps fewer rows of a column by an operator that says more, and compares by bytes. -/
theorem text_tests_consistent (hconf : table.Conforming)
    (hcolumn : table.schema[position]? = some column) (htype : column.type = .string)
    (hraw : Literal.ofText raw.toList = .string s) :
    ∃ kept : Operator → Table,
      (∀ (name : String) (op : Operator),
        table.filter [⟨name, position, op, .ofText raw.toList⟩] = .ok (kept op)) ∧
      (table.schema.position? column.name = some position → ∀ (op : Operator) (text : String),
        Condition.parse text = .ok ⟨column.name, op, raw⟩ →
        ∃ predicates, Filter.build table.schema [text] = .ok predicates ∧
          table.filter predicates = .ok (kept op)) ∧
      ((kept (.relation .eq)).rows.Sublist (kept (.textTest .startsWith)).rows ∧
        (kept (.relation .eq)).rows.Sublist (kept (.textTest .endsWith)).rows ∧
        (kept (.textTest .startsWith)).rows.Sublist (kept (.textTest .contains)).rows ∧
        (kept (.textTest .startsWith)).rows.Sublist (kept (.relation .ge)).rows ∧
        (kept (.textTest .endsWith)).rows.Sublist (kept (.textTest .contains)).rows) ∧
      (s = "" → ∀ test : TextTest, (kept (.textTest test)).rows =
        table.rows.filter fun row => decide (row[position]? ≠ some .null)) ∧
      (∀ relation : Relation, (kept (.relation relation)).rows = table.rows.filter fun row =>
        row[position]?.any fun cell => cell.string?.any fun v =>
          relation.holds (Ord.compare (Text.bytes v) (Text.bytes s))) ∧
      ∀ v w : String,
        (Cell.string v).compare (.string w) =
          .ordered (Ord.compare (Text.bytes v) (Text.bytes w)) ∧
        Ord.compare (Text.bytes v) (Text.bytes w) =
          Ord.compare (Text.scalars v) (Text.scalars w) := by
  refine ⟨table.matching position s, fun name op => filter_matching hconf hcolumn htype hraw name,
    ?_, ⟨?_, ?_, ?_, ?_, ?_⟩, ?_, rows_matching_relation, ?_⟩
  · intro hposition op text hparse
    exact ⟨_, Filter.build_of_parse hparse hposition, filter_matching hconf hcolumn htype hraw _⟩
  · exact matching_sublist fun _ h => h.of_eq .startsWith
  · exact matching_sublist fun _ h => h.of_eq .endsWith
  · exact matching_sublist fun _ h => h.of_startsWith.1
  · exact matching_sublist fun _ h => h.of_startsWith.2
  · exact matching_sublist fun _ h => h.of_endsWith
  · rintro rfl
    exact rows_matching_empty hconf hcolumn htype
  · intro v w
    exact ⟨Cell.compare_string v w, by rw [← Text.compare_bytes, Text.compare_scalars]⟩

/-- Words of one to four bytes a character, the empty one and a null. -/
def words : Table where
  schema := [⟨"word", .string⟩]
  rows := [[.string "e"], [.string "é"], [.string ""], [.string "ére"], [.string "𝄞"],
    [.string "café"], [.null], [.string "日本"]]
  rectangular := by decide

theorem text_tests_consistent_words :
    words.Conforming ∧ words.schema[0]? = some ⟨"word", .string⟩ ∧
    words.schema.position? "word" = some 0 ∧
    (Literal.ofText "é".toList = .string "é" ∧
      Condition.parse "word >= é" = .ok ⟨"word", .relation .ge, "é"⟩ ∧
      ∃ predicates kept, Filter.build words.schema ["word >= é"] = .ok predicates ∧
        words.filter predicates = .ok kept ∧
        kept.rows = [[.string "é"], [.string "ére"], [.string "𝄞"], [.string "日本"]]) ∧
    (Literal.ofText "''".toList = .string "" ∧
      ∃ kept, words.filter [⟨"word", 0, .textTest .endsWith, .ofText "''".toList⟩] = .ok kept ∧
        kept.rows = [[.string "e"], [.string "é"], [.string ""], [.string "ére"], [.string "𝄞"],
          [.string "café"], [.string "日本"]]) := by
  have hconf : words.Conforming := by decide
  have hcolumn : words.schema[0]? = some ⟨"word", .string⟩ := rfl
  have hposition : words.schema.position? "word" = some 0 := by decide
  have hraw : Literal.ofText "é".toList = .string "é" := by decide +kernel
  have hparse : Condition.parse "word >= é" = .ok ⟨"word", .relation .ge, "é"⟩ := by cbv
  have hempty : Literal.ofText "''".toList = .string "" := by decide +kernel
  refine ⟨hconf, hcolumn, hposition, ⟨hraw, hparse, ?_⟩, hempty, ?_⟩
  · obtain ⟨kept, -, built, -, -, compared, -⟩ := text_tests_consistent hconf hcolumn rfl hraw
    obtain ⟨predicates, hbuild, hfilter⟩ := built hposition _ _ hparse
    refine ⟨predicates, _, hbuild, hfilter, ?_⟩
    rw [compared]
    decide
  · obtain ⟨kept, filtered, -, -, all, -⟩ := text_tests_consistent hconf hcolumn rfl hempty
    refine ⟨_, filtered "word" (.textTest .endsWith), ?_⟩
    rw [all rfl]
    decide

end Table

end TableScope
