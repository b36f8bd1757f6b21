import Mathlib.Data.String.Basic
import TableScope.Proofs.Filter.Spelling
import TableScope.Proofs.Table.Operations

/-! # What conditions mean

A condition on a column of integers keeps the rows whose integer stands in the relation to the one that
is written, and a condition on a column of strings those whose string does, or holds the written one
(`condition_selects`). The relations are those of the integers and of the lexicographic order of
strings, and a row without a value is not kept by any of them.
-/
set_option autoImplicit false

namespace TableScope

/-! ## Relations -/

def Relation.Relates {α : Type} [LT α] [LE α] : Relation → α → α → Prop
  | ge, a, b => b ≤ a
  | le, a, b => a ≤ b
  | eq, a, b => a = b
  | ne, a, b => a ≠ b
  | gt, a, b => b < a
  | lt, a, b => a < b

instance {α : Type} [LinearOrder α] (relation : Relation) (a b : α) :
    Decidable (relation.Relates a b) :=
  match relation with
  | .ge => inferInstanceAs (Decidable (b ≤ a))
  | .le => inferInstanceAs (Decidable (a ≤ b))
  | .eq => inferInstanceAs (Decidable (a = b))
  | .ne => inferInstanceAs (Decidable (a ≠ b))
  | .gt => inferInstanceAs (Decidable (b < a))
  | .lt => inferInstanceAs (Decidable (a < b))

theorem Relation.holds_iff {α : Type} [LinearOrder α] {a b : α} {order : Ordering}
    (hlt : order = .lt ↔ a < b) (heq : order = .eq ↔ a = b) (hgt : order = .gt ↔ b < a)
    (relation : Relation) : relation.holds order = true ↔ relation.Relates a b := by
  cases relation with
  | ge => rw [holds, bne_iff_ne, Ne, hlt, not_lt]; rfl
  | le => rw [holds, bne_iff_ne, Ne, hgt, not_lt]; rfl
  | eq => rw [holds, beq_iff_eq, heq]; rfl
  | ne => rw [holds, bne_iff_ne, Ne, heq]; rfl
  | gt => rw [holds, beq_iff_eq, hgt]; rfl
  | lt => rw [holds, beq_iff_eq, hlt]; rfl

theorem Relation.holds_compare {α : Type} [LinearOrder α] (relation : Relation) (a b : α) :
    relation.holds (compare a b) = decide (relation.Relates a b) := by
  rw [Bool.eq_iff_iff, decide_eq_true_iff]
  exact relation.holds_iff compare_lt_iff_lt compare_eq_iff_eq compare_gt_iff_gt

theorem Relation.holds_compare_text (relation : Relation) (value s : String) :
    relation.holds (Text.compare value.toList s.toList) = decide (relation.Relates value s) := by
  rw [Bool.eq_iff_iff, decide_eq_true_iff]
  exact relation.holds_iff (Text.compare_eq_lt.trans String.lt_iff_toList_lt.symm)
    (Text.compare_eq_eq.trans String.toList_inj)
    (Text.compare_eq_gt.trans String.lt_iff_toList_lt.symm)

/-- Where the test finds a part of a text. -/
def TextTest.Finds : TextTest → (text part : List Char) → Prop
  | contains, text, part => part <:+: text
  | startsWith, text, part => part <+: text
  | endsWith, text, part => part <:+ text

instance (test : TextTest) (text part : List Char) : Decidable (test.Finds text part) :=
  match test with
  | .contains => inferInstanceAs (Decidable (part <:+: text))
  | .startsWith => inferInstanceAs (Decidable (part <+: text))
  | .endsWith => inferInstanceAs (Decidable (part <:+ text))

theorem TextTest.holds_iff (test : TextTest) (text part : List Char) :
    test.holds text part = true ↔ test.Finds text part := by
  cases test with
  | contains => exact Text.occurs_iff_infix
  | startsWith => exact List.isPrefixOf_iff_prefix
  | endsWith => exact List.isSuffixOf_iff_suffix

/-- What an operator says about a string and the string of a condition. -/
def Operator.Relates : Operator → (value s : String) → Prop
  | relation r, value, s => r.Relates value s
  | textTest t, value, s => t.Finds value.toList s.toList

instance (op : Operator) (value s : String) : Decidable (op.Relates value s) :=
  match op with
  | .relation r => inferInstanceAs (Decidable (r.Relates value s))
  | .textTest t => inferInstanceAs (Decidable (t.Finds value.toList s.toList))

/-! ## Cells -/

namespace Cell

def integer? : Cell → Option Int
  | int64 value => some value.toInt
  | uint64 value => some value.toNat
  | _ => none

def string? : Cell → Option String
  | string value => some value
  | _ => none

end Cell

namespace Predicate

variable {p : Predicate} {cell : Cell}

theorem test_integer {relation : Relation} {k : Int64} (ho : p.operator = .relation relation)
    (hl : p.literal = .integer k) {type : ColumnType} (ht : type = .int64 ∨ type = .uint64)
    (hc : cell.Conforms type) :
    p.test cell = .ok (cell.integer?.any fun v => decide (relation.Relates v k.toInt)) := by
  cases hc with
  | null => exact test_null
  | int64 value =>
    simp only [test, ho, hl, Cell.compare, relation.holds_compare, Cell.integer?, Option.any_some]
  | uint64 value =>
    simp only [test, ho, hl, Cell.compare, relation.holds_compare, Cell.integer?, Option.any_some]
  | boolean | float64 => rcases ht with ht | ht <;> cases ht
  | string value type htext => rcases ht with rfl | rfl <;> cases htext

theorem test_text {relation : Relation} {s : String} (ho : p.operator = .relation relation)
    (hl : p.literal = .string s) {type : ColumnType} (ht : type.isTextual = true)
    (hc : cell.Conforms type) :
    p.test cell =
      .ok (cell.string?.any fun v => relation.holds (Text.compare v.toList s.toList)) := by
  cases hc with
  | null => exact test_null
  | string value type htext => simp only [test, ho, hl, Cell.compare, Cell.string?, Option.any_some]
  | boolean | int64 | uint64 | float64 => cases ht

theorem test_string {s : String} (hl : p.literal = .string s) (hc : cell.Conforms .string) :
    p.test cell = .ok (cell.string?.any fun v => decide (p.operator.Relates v s)) := by
  cases ho : p.operator with
  | relation r =>
    rw [test_text ho hl rfl hc]
    simp only [r.holds_compare_text]
    rfl
  | textTest t =>
    cases hc with
    | null => exact test_null
    | string value type htext =>
      have ht : t.holds value.toList s.toList = decide (t.Finds value.toList s.toList) := by
        rw [Bool.eq_iff_iff, decide_eq_true_iff]
        exact t.holds_iff value.toList s.toList
      simp only [test, ho, hl, Literal.needle, Literal.text, ht, Cell.string?, Option.any_some]
      rfl

end Predicate

theorem Filter.build_of_parse {schema : Schema} {text : String} {condition : Condition}
    {position : Nat} (hparse : Condition.parse text = .ok condition)
    (hposition : schema.position? condition.column = some position) :
    Filter.build schema [text] =
      .ok [⟨condition.column, position, condition.operator, .ofText condition.literal.toList⟩] := by
  have hbind : Predicate.bind schema condition =
      .ok ⟨condition.column, position, condition.operator, .ofText condition.literal.toList⟩ := by
    rw [Predicate.bind, hposition]
  simp only [Filter.build, Filter.predicate, hparse, bind, Except.bind, hbind, pure, Except.pure]

/-! ## Rows -/

namespace Table

variable {table : Table}

/-- The condition is understood, and filtering by it keeps the rows that pass the test. -/
def Keeps (table : Table) (condition : Condition) (test : Row → Bool) : Prop :=
  ∃ predicates, Filter.build table.schema [condition.text] = .ok predicates ∧
    table.filter predicates =
      .ok (table.withRows (table.rows.filter test) List.filter_sublist.subset)

/-- A predicate that applies to the cells of its column keeps the rows whose cell passes the test. -/
theorem filter_of_test (hconf : table.Conforming) {column : Column} {p : Predicate}
    {test : Cell → Bool} (hcolumn : table.schema[p.position]? = some column)
    (haccepts : p.accepts column.type = true)
    (htest : ∀ cell, cell.Conforms column.type → p.test cell = .ok (test cell)) :
    table.filter [p] = .ok (table.withRows (table.rows.filter fun row => row[p.position]?.any test)
      List.filter_sublist.subset) := by
  have hcheck : Filter.checkSchema [p] table.schema = .ok () := by
    have hc : p.checkSchema table.schema = .ok () := by
      rw [Predicate.checkSchema, Schema.type?, hcolumn]
      exact Predicate.checkType_eq_ok_iff.mpr haccepts
    rw [Filter.checkSchema, hc]
    rfl
  rw [table.filter_eq_ok hcheck hconf]
  refine congrArg Except.ok (Table.ext rfl (List.filter_congr ?_))
  intro row hrow
  obtain ⟨cell, hcell, hc⟩ := (hconf row hrow).exists_cell hcolumn
  have hholds : p.holds row = test cell := by
    rw [Predicate.holds, Predicate.evaluate_of_getElem? hcell, htest cell hc]
  rw [List.all_cons, List.all_nil, Bool.and_true, hholds, hcell, Option.any_some]

theorem keeps_of_test (hconf : table.Conforming) {condition : Condition} {position : Nat}
    {column : Column} {p : Predicate} {test : Cell → Bool}
    (hparse : Condition.parse condition.text = .ok condition)
    (hposition : table.schema.position? condition.column = some position)
    (hcolumn : table.schema[position]? = some column)
    (hp : p = ⟨condition.column, position, condition.operator, .ofText condition.literal.toList⟩)
    (haccepts : p.accepts column.type = true)
    (htest : ∀ cell, cell.Conforms column.type → p.test cell = .ok (test cell)) :
    table.Keeps condition fun row => row[position]?.any test := by
  subst hp
  exact ⟨_, Filter.build_of_parse hparse hposition, filter_of_test hconf hcolumn haccepts htest⟩

theorem keeps_integer (hconf : table.Conforming) {name : String} {position : Nat} {column : Column}
    (htrimmed : Text.Trimmed name.toList) (hfree : Operator.Free name.toList)
    (hposition : table.schema.position? name = some position)
    (hcolumn : table.schema[position]? = some column)
    (htype : column.type = .int64 ∨ column.type = .uint64) (relation : Relation) (k : Int64) :
    table.Keeps ⟨name, .relation relation, toString k.toInt⟩ fun row =>
      row[position]?.any fun cell =>
        cell.integer?.any fun v => decide (relation.Relates v k.toInt) := by
  have htext := Int.toList_toString k.toInt
  have hdigits : Operator.Free (Int.text k.toInt) := Operator.free_of_forall_foreign fun c hc =>
    List.mem_cons_of_mem _ (List.mem_cons_of_mem _ (Numeral.mem_text hc))
  have hliteral : Literal.ofText (toString k.toInt).toList = .integer k := by
    rw [htext, Literal.ofText_text]
  apply keeps_of_test hconf _ hposition hcolumn rfl
  · rw [Predicate.accepts_relation rfl, hliteral]
    rcases htype with htype | htype <;> rw [htype] <;> rfl
  · exact fun cell hc => Predicate.test_integer rfl hliteral htype hc
  · exact Condition.parse_text _ htrimmed hfree (htext ▸ Literal.trimmed_text _) (htext ▸ hdigits)

theorem keeps_string (hconf : table.Conforming) {name : String} {position : Nat} {column : Column}
    (htrimmed : Text.Trimmed name.toList) (hfree : Operator.Free name.toList)
    (hposition : table.schema.position? name = some position)
    (hcolumn : table.schema[position]? = some column)
    (htype : column.type = .string) (op : Operator) {s : String} (hs : Operator.Free s.toList)
    (hplain : Literal.Plain s.toList) :
    table.Keeps ⟨name, op, "'" ++ s ++ "'"⟩ fun row => row[position]?.any fun cell =>
      cell.string?.any fun v => decide (op.Relates v s) := by
  have htext : ("'" ++ s ++ "'").toList = '\'' :: (s.toList ++ ['\'']) := by simp
  have hquote : '\'' ∈ Operator.foreignChars := List.mem_cons_of_mem _ List.mem_cons_self
  have hnil : Operator.Free [] := Operator.free_of_forall_foreign nofun
  have hquoted : Operator.Free ('\'' :: (s.toList ++ ['\''])) :=
    hnil.append_cons hquote (hs.append_cons hquote hnil)
  have htrim : Text.Trimmed ('\'' :: (s.toList ++ ['\''])) := by
    constructor
    · rintro c ⟨⟩
      rfl
    · rw [← List.cons_append, List.getLast?_concat]
      rintro c ⟨⟩
      rfl
  have hliteral : Literal.ofText ("'" ++ s ++ "'").toList = .string s := by
    rw [htext, Literal.ofText_quoted hplain, String.ofList_toList]
  apply keeps_of_test hconf _ hposition hcolumn rfl
  · rw [htype]
    cases op with
    | relation r => rw [Predicate.accepts_relation rfl, hliteral]; rfl
    | textTest t => exact Predicate.accepts_textTest rfl
  · exact fun cell hc => Predicate.test_string hliteral (htype ▸ hc)
  · exact Condition.parse_text _ htrimmed hfree (htext ▸ htrim) (htext ▸ hquoted)

/-- On columns that hold texts, a text that is read as itself is compared with them. -/
theorem keeps_text (hconf : table.Conforming) {name : String} {position : Nat} {column : Column}
    (htrimmed : Text.Trimmed name.toList) (hfree : Operator.Free name.toList)
    (hposition : table.schema.position? name = some position)
    (hcolumn : table.schema[position]? = some column)
    (htype : column.type.isTextual = true) (relation : Relation) {s : String}
    (hs : Text.Trimmed s.toList) (hsf : Operator.Free s.toList)
    (hread : Literal.ofText s.toList = .string s) :
    table.Keeps ⟨name, .relation relation, s⟩ fun row => row[position]?.any fun cell =>
      cell.string?.any fun v => relation.holds (Text.compare v.toList s.toList) := by
  apply keeps_of_test hconf _ hposition hcolumn rfl
  · rw [Predicate.accepts_relation rfl, hread]
    cases hc : column.type <;> rw [hc] at htype <;> first | rfl | cases htype
  · exact fun cell hc => Predicate.test_text rfl hread htype hc
  · exact Condition.parse_text _ htrimmed hfree hs hsf

/-- Conditions keep what they say: on integers the relation to the written integer, on strings the
relation to the quoted string, which may have blank ends, or where it stands. -/
theorem condition_selects (hconf : table.Conforming) {name : String} {position : Nat}
    {column : Column} (htrimmed : Text.Trimmed name.toList) (hfree : Operator.Free name.toList)
    (hposition : table.schema.position? name = some position)
    (hcolumn : table.schema[position]? = some column) :
    (column.type = .int64 ∨ column.type = .uint64 → ∀ (relation : Relation) (k : Int64),
      table.Keeps ⟨name, .relation relation, toString k.toInt⟩ fun row =>
        row[position]?.any fun cell =>
          cell.integer?.any fun v => decide (relation.Relates v k.toInt)) ∧
    (column.type = .string → ∀ (op : Operator) (s : String), Operator.Free s.toList →
      Literal.Plain s.toList →
      table.Keeps ⟨name, op, "'" ++ s ++ "'"⟩ fun row =>
        row[position]?.any fun cell => cell.string?.any fun v => decide (op.Relates v s)) :=
  ⟨keeps_integer hconf htrimmed hfree hposition hcolumn,
    fun htype op _ hs hplain =>
      keeps_string hconf htrimmed hfree hposition hcolumn htype op hs hplain⟩

/-- Codes with blank ends, counts under a name that repeats, and rows without values. -/
def orders : Table where
  schema := [⟨"code", .string⟩, ⟨"count", .uint64⟩, ⟨"count", .string⟩]
  rows :=
    [[.string "ab ", .uint64 3, .string "3"], [.string "b", .uint64 18446744073709551615, .null],
      [.null, .null, .string "4"], [.string "b ", .uint64 4, .string "4"]]
  rectangular := by decide

theorem condition_selects_orders :
    orders.Conforming ∧
      (orders.Keeps ⟨"count", .relation .gt, "3"⟩ fun row => row[1]?.any fun cell =>
        cell.integer?.any fun v => decide (Relation.gt.Relates v 3)) ∧
      (orders.rows.filter fun row => row[1]?.any fun cell =>
        cell.integer?.any fun v => decide (Relation.gt.Relates v 3)) =
          [[.string "b", .uint64 18446744073709551615, .null],
            [.string "b ", .uint64 4, .string "4"]] ∧
      (orders.Keeps ⟨"code", .textTest .endsWith, "'b '"⟩ fun row => row[0]?.any fun cell =>
        cell.string?.any fun v => decide ((Operator.textTest .endsWith).Relates v "b ")) ∧
      (orders.rows.filter fun row => row[0]?.any fun cell =>
        cell.string?.any fun v => decide ((Operator.textTest .endsWith).Relates v "b ")) =
          [[.string "ab ", .uint64 3, .string "3"], [.string "b ", .uint64 4, .string "4"]] := by
  have hconf : orders.Conforming := by decide
  have htrimmed : ∀ name ∈ ["count", "code"], Text.Trimmed name.toList := by decide
  have hfree : ∀ name ∈ ["count", "code"], Operator.Free name.toList :=
    fun name hm => Operator.free_iff.mpr (by revert name; decide)
  have hcount := condition_selects hconf (htrimmed "count" (by decide)) (hfree "count" (by decide))
    rfl rfl
  have hcode := condition_selects hconf (htrimmed "code" (by decide)) (hfree "code" (by decide))
    rfl rfl
  have hplain : Literal.Plain "b ".toList :=
    ⟨by decide, by decide, (fun _ i hi => nomatch hi), fun hm => absurd hm (by decide)⟩
  refine ⟨hconf, hcount.1 (.inr rfl) .gt 3, by decide, ?_, by decide⟩
  exact hcode.2 rfl (.textTest .endsWith) "b " (Operator.free_iff.mpr (by decide)) hplain

end Table

end TableScope
