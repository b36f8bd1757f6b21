import TableScope.Proofs.Number.Order
import TableScope.Proofs.Table.Conjunction
import TableScope.Proofs.Table.Partition
import TableScope.Proofs.Text.Parts

/-! # Bounds

A greater cell stands higher to a literal, and a cell stands lower to a greater literal
(`Cell.Le.compare`, `Literal.Le.compare`). This also holds where integers meet floats, as rounding keeps
their order. So what is above a bound is above every lower bound, and what is below it is below every
higher one, and the rows that are kept grow with the room that a bound leaves (`bounds_widen`).
-/
set_option autoImplicit false

namespace TableScope

/-! ## Outcomes -/

/-- Below comes before equal, and equal before above. -/
def Ordering.AtMost (o p : Ordering) : Prop := o = .lt ∨ o = p ∨ p = .gt

section Outcomes

variable {α : Type} [LinearOrder α] {a b c : α} {o p : Ordering}

theorem atMost_of_le_left (h : a ≤ b) : Ordering.AtMost (compare a c) (compare b c) := by
  rcases lt_or_ge a c with hlt | hca
  · exact .inl (compare_lt_iff_lt.mpr hlt)
  · rcases lt_or_ge c b with hgt | hbc
    · exact .inr (.inr (compare_gt_iff_gt.mpr hgt))
    · rw [le_antisymm h (hbc.trans hca)]
      exact .inr (.inl rfl)

theorem atMost_of_le_right (h : b ≤ c) : Ordering.AtMost (compare a c) (compare a b) := by
  rcases lt_or_ge a c with hlt | hca
  · exact .inl (compare_lt_iff_lt.mpr hlt)
  · rcases lt_or_ge b a with hgt | hab
    · exact .inr (.inr (compare_gt_iff_gt.mpr hgt))
    · rw [le_antisymm h (hca.trans hab)]
      exact .inr (.inl rfl)

/-- The relations that bound from below. -/
theorem Relation.holds_of_atMost {relation : Relation} (hr : relation ∈ [.gt, .ge])
    (h : Ordering.AtMost o p) (ho : relation.holds o = true) : relation.holds p = true := by
  rcases List.mem_pair.mp hr with rfl | rfl <;> rcases h with rfl | rfl | rfl <;>
    first | exact ho | cases ho | rfl

/-- The relations that bound from above. -/
theorem Relation.holds_of_atMost' {relation : Relation} (hr : relation ∈ [.lt, .le])
    (h : Ordering.AtMost o p) (hp : relation.holds p = true) : relation.holds o = true := by
  rcases List.mem_pair.mp hr with rfl | rfl <;> rcases h with rfl | rfl | rfl <;>
    first | exact hp | cases hp | rfl

end Outcomes

theorem Text.compare_toList (s t : String) : Text.compare s.toList t.toList = cmp s t := by
  cases h : cmp s t with
  | lt => exact Text.compare_eq_lt.mpr (String.lt_iff_toList_lt.mp ((cmp_eq_lt_iff s t).mp h))
  | eq => exact Text.compare_eq_eq.mpr (String.toList_inj.mpr ((cmp_eq_eq_iff s t).mp h))
  | gt => exact Text.compare_eq_gt.mpr (String.lt_iff_toList_lt.mp ((cmp_eq_gt_iff s t).mp h))

/-! ## Cells and literals -/

/-- The order of values of one kind. Floats are ordered as they stand on the line. -/
inductive Cell.Le : Cell → Cell → Prop
  | boolean {a b : Bool} (h : a ≤ b) : Le (boolean a) (boolean b)
  | int64 {a b : Int64} (h : a ≤ b) : Le (int64 a) (int64 b)
  | uint64 {a b : UInt64} (h : a ≤ b) : Le (uint64 a) (uint64 b)
  | float64 {x y : Binary64} (h : x.value.onLine ≤ y.value.onLine) : Le (float64 x) (float64 y)
  | string {s t : String} (h : s ≤ t) : Le (string s) (string t)

/-- The order of literals of one kind. -/
inductive Literal.Le : Literal → Literal → Prop
  | boolean {a b : Bool} (h : a ≤ b) : Le (boolean a) (boolean b)
  | integer {a b : Int64} (h : a ≤ b) : Le (integer a) (integer b)
  | float {x y : Binary64} (h : x.value.onLine ≤ y.value.onLine) : Le (float x) (float y)
  | string {s t : String} (h : s ≤ t) : Le (string s) (string t)

/-- Two comparisons that give an order each, the first at most the second, or none of which does. -/
inductive Comparison.AtMost : Comparison → Comparison → Prop
  | ordered {o p : Ordering} (h : Ordering.AtMost o p) : AtMost (ordered o) (ordered p)
  | missing : AtMost missing missing
  | incomparable : AtMost incomparable incomparable

theorem Cell.Le.compare {x y : Cell} (h : x.Le y) (a : Literal) :
    Comparison.AtMost (x.compare a) (y.compare a) := by
  cases h with
  | boolean h =>
    cases a with
    | boolean c => exact .ordered (atMost_of_le_left (Bool.toNat_le_toNat h))
    | integer | float | string => exact .incomparable
  | int64 h =>
    have hi := Int64.le_iff_toInt_le.mp h
    cases a with
    | integer c => exact .ordered (atMost_of_le_left hi)
    | float c => exact .ordered (atMost_of_le_left (Binary.rank_ofInt_mono hi))
    | boolean | string => exact .incomparable
  | uint64 h =>
    have hi := Int.ofNat_le.mpr (UInt64.le_iff_toNat_le.mp h)
    cases a with
    | integer c => exact .ordered (atMost_of_le_left hi)
    | float c => exact .ordered (atMost_of_le_left (Binary.rank_ofInt_mono hi))
    | boolean | string => exact .incomparable
  | float64 h =>
    have hr := (Binary.onLine_le_iff (by decide)).mp h
    cases a with
    | integer c => exact .ordered (atMost_of_le_left hr)
    | float c => exact .ordered (atMost_of_le_left hr)
    | boolean | string => exact .incomparable
  | string h =>
    cases a with
    | string c =>
      rw [Cell.compare, Cell.compare, Text.compare_toList, Text.compare_toList, cmp_eq_compare,
        cmp_eq_compare]
      exact .ordered (atMost_of_le_left h)
    | boolean | integer | float => exact .incomparable

theorem Literal.Le.compare {a b : Literal} (h : a.Le b) (x : Cell) :
    Comparison.AtMost (x.compare b) (x.compare a) := by
  cases h with
  | boolean h =>
    cases x with
    | null => exact .missing
    | boolean c => exact .ordered (atMost_of_le_right (Bool.toNat_le_toNat h))
    | int64 | uint64 | float64 | string => exact .incomparable
  | integer h =>
    have hi := Int64.le_iff_toInt_le.mp h
    cases x with
    | null => exact .missing
    | int64 c => exact .ordered (atMost_of_le_right hi)
    | uint64 c => exact .ordered (atMost_of_le_right hi)
    | float64 c => exact .ordered (atMost_of_le_right (Binary.rank_ofInt_mono hi))
    | boolean | string => exact .incomparable
  | float h =>
    have hr := (Binary.onLine_le_iff (by decide)).mp h
    cases x with
    | null => exact .missing
    | int64 c => exact .ordered (atMost_of_le_right hr)
    | uint64 c => exact .ordered (atMost_of_le_right hr)
    | float64 c => exact .ordered (atMost_of_le_right hr)
    | boolean | string => exact .incomparable
  | string h =>
    cases x with
    | null => exact .missing
    | string c =>
      rw [Cell.compare, Cell.compare, Text.compare_toList, Text.compare_toList, cmp_eq_compare,
        cmp_eq_compare]
      exact .ordered (atMost_of_le_right h)
    | boolean | int64 | uint64 | float64 => exact .incomparable

/-- Any two values of one type are in order. -/
theorem Cell.le_or_le {x y : Cell} {type : ColumnType} (hx : x.type? = some type)
    (hy : y.type? = some type) : x.Le y ∨ y.Le x := by
  have hkind := hx.trans hy.symm
  cases x with
  | null => cases hx
  | boolean a => cases y <;> cases hkind; exact (le_total a _).imp .boolean .boolean
  | int64 a => cases y <;> cases hkind; exact (Int64.le_total a _).imp .int64 .int64
  | uint64 a => cases y <;> cases hkind; exact (UInt64.le_total a _).imp .uint64 .uint64
  | float64 a =>
    cases y <;> cases hkind
    exact (le_total a.value.onLine _).imp .float64 .float64
  | string a => cases y <;> cases hkind; exact (le_total a _).imp .string .string

/-! ## Tables -/

section Rows

variable {a b : Literal} {name : String} {position : Nat} {relation : Relation} {schema : Schema}
  {row : Row}

/-- Literals of one kind are accepted by the same columns. -/
theorem Literal.Le.checkSchema_iff (h : a.Le b) :
    (Predicate.comparing name position a relation).checkSchema schema = .ok () ↔
      (Predicate.comparing name position b relation).checkSchema schema = .ok () := by
  have haccepts : ∀ type, (Predicate.comparing name position a relation).accepts type =
      (Predicate.comparing name position b relation).accepts type := by
    intro type
    rw [Predicate.accepts_relation rfl, Predicate.accepts_relation rfl]
    cases h <;> rfl
  have hp : ∀ literal, (Predicate.comparing name position literal relation).position = position :=
    fun _ => rfl
  rw [Predicate.checkSchema, Predicate.checkSchema, hp, hp]
  cases schema.type? position with
  | none => exact Iff.rfl
  | some type => rw [Predicate.checkType_eq_ok_iff, Predicate.checkType_eq_ok_iff, haccepts]

/-- A row stands lower to the greater literal, or to none of the two. -/
theorem Literal.Le.order? (h : a.Le b) (position : Nat) (row : Row) :
    Row.order? position b row = none ∧ Row.order? position a row = none ∨
      ∃ o p, Row.order? position b row = some o ∧ Row.order? position a row = some p ∧
        Ordering.AtMost o p := by
  rw [Row.order?, Row.order?]
  cases row[position]? with
  | none => exact .inl ⟨rfl, rfl⟩
  | some cell =>
    have hcompare := h.compare cell
    simp only [Option.bind_some, Cell.order?]
    generalize cell.compare b = first, cell.compare a = second at hcompare ⊢
    cases hcompare with
    | ordered ho => exact .inr ⟨_, _, rfl, rfl, ho⟩
    | missing | incomparable => exact .inl ⟨rfl, rfl⟩

theorem Literal.Le.any_holds (h : a.Le b) (hr : relation ∈ [.gt, .ge])
    (hb : (Row.order? position b row).any relation.holds = true) :
    (Row.order? position a row).any relation.holds = true := by
  rcases h.order? position row with ⟨hnone, -⟩ | ⟨o, p, ho, hp, hop⟩
  · rw [hnone] at hb
    cases hb
  · rw [ho] at hb
    rw [hp]
    exact Relation.holds_of_atMost hr hop hb

theorem Literal.Le.any_holds' (h : a.Le b) (hr : relation ∈ [.lt, .le])
    (ha : (Row.order? position a row).any relation.holds = true) :
    (Row.order? position b row).any relation.holds = true := by
  rcases h.order? position row with ⟨-, hnone⟩ | ⟨o, p, ho, hp, hop⟩
  · rw [hnone] at ha
    cases ha
  · rw [hp] at ha
    rw [ho]
    exact Relation.holds_of_atMost' hr hop ha

end Rows

namespace Table

variable {table : Table} {a b : Literal} {name : String} {position : Nat} {relation : Relation}

/-- Where the first filter applies the second one does, and keeps all that the first one keeps. -/
def Widens (table : Table) (first second : Filter) : Prop :=
  ∀ kept, table.filter first = .ok kept →
    ∃ wider, table.filter second = .ok wider ∧ kept.rows.Sublist wider.rows

theorem widens_comparing (hf : table.Conforming)
    (hcheck : (Predicate.comparing name position a relation).checkSchema table.schema = .ok () →
      (Predicate.comparing name position b relation).checkSchema table.schema = .ok ())
    (hholds : ∀ row, (Row.order? position a row).any relation.holds = true →
      (Row.order? position b row).any relation.holds = true) :
    table.Widens [.comparing name position a relation] [.comparing name position b relation] := by
  intro kept hkept
  have ha := (filter_eq_ok_iff.mp hkept).1.checked _ List.mem_cons_self
  obtain rfl := Except.ok.inj ((hf.filter_comparing ha).symm.trans hkept)
  exact ⟨_, hf.filter_comparing (hcheck ha), List.monotone_filter_right _ hholds⟩

/-- A lower cell is not above a literal where a higher one is below it, and a lower literal leaves more
above it and less below it. -/
theorem bounds_widen :
    (∀ x y : Cell, x.Le y → ∀ literal o, x.compare literal = .ordered o →
      ∃ p, y.compare literal = .ordered p ∧ Ordering.AtMost o p) ∧
    ∀ a b : Literal, a.Le b →
      (∀ (cell : Cell) p, cell.compare a = .ordered p →
        ∃ o, cell.compare b = .ordered o ∧ Ordering.AtMost o p) ∧
      ∀ table : Table, table.Conforming → ∀ (name : String) (position : Nat),
        (∀ relation ∈ [Relation.gt, .ge], table.Widens [.comparing name position b relation]
          [.comparing name position a relation]) ∧
        (∀ relation ∈ [Relation.lt, .le], table.Widens [.comparing name position a relation]
          [.comparing name position b relation]) := by
  refine ⟨fun x y h literal o ho => ?_, fun a b h => ⟨fun cell p hp => ?_, ?_⟩⟩
  · have hcompare := h.compare literal
    rw [ho] at hcompare
    generalize y.compare literal = other at hcompare ⊢
    cases hcompare with
    | ordered hop => exact ⟨_, rfl, hop⟩
  · have hcompare := h.compare cell
    rw [hp] at hcompare
    generalize cell.compare b = other at hcompare ⊢
    cases hcompare with
    | ordered hop => exact ⟨_, rfl, hop⟩
  · intro table hf name position
    exact ⟨fun relation hr => widens_comparing hf h.checkSchema_iff.mpr fun row => h.any_holds hr,
      fun relation hr => widens_comparing hf h.checkSchema_iff.mp fun row => h.any_holds' hr⟩

/-- Tallies on both sides of what floats can tell apart, and one that is missing. -/
def tallies : Table where
  schema := [⟨"tally", .uint64⟩]
  rows := [[.uint64 9007199254740992], [.uint64 9007199254740993], [.null],
    [.uint64 18446744073709551615]]
  rectangular := by decide

theorem bounds_widen_tallies :
    let power := Binary.number false 4845873199050653696
    let following := Binary.number false 4845873199050653697
    let above := fun literal => Predicate.comparing "tally" 0 literal .ge
    tallies.Conforming ∧ (Literal.float power).Le (.float following) ∧
      ((Cell.uint64 9007199254740992).Le (.uint64 9007199254740993) ∧
        (Cell.uint64 9007199254740992).compare (.float power) = .ordered .eq ∧
        ∃ p, (Cell.uint64 9007199254740993).compare (.float power) = .ordered p ∧
          Ordering.AtMost .eq p) ∧
      ((Cell.uint64 9007199254740993).compare (.float power) = .ordered .eq ∧
        ∃ o, (Cell.uint64 9007199254740993).compare (.float following) = .ordered o ∧
          Ordering.AtMost o .eq) ∧
      (tallies.filter [above (.float following)]).map rows = .ok [[.uint64 18446744073709551615]] ∧
      tallies.Widens [above (.float following)] [above (.float power)] := by
  intro power following above
  have hconf : tallies.Conforming := by decide
  have hliteral : (Literal.float power).Le (.float following) :=
    .float ((Binary.onLine_le_iff (by decide)).mpr (by decide +kernel))
  have hcell : (Cell.uint64 9007199254740992).Le (.uint64 9007199254740993) := .uint64 (by decide)
  have hpower : (Cell.uint64 9007199254740992).compare (.float power) = .ordered .eq := by
    decide +kernel
  have hmerged : (Cell.uint64 9007199254740993).compare (.float power) = .ordered .eq := by
    decide +kernel
  obtain ⟨hcells, hliterals⟩ := bounds_widen
  obtain ⟨hcompare, htables⟩ := hliterals _ _ hliteral
  refine ⟨hconf, hliteral, ⟨hcell, hpower, hcells _ _ hcell _ _ hpower⟩,
    ⟨hmerged, hcompare _ _ hmerged⟩, by decide +kernel, ?_⟩
  exact (htables tallies hconf "tally" 0).1 .ge (by decide)

end Table

end TableScope
