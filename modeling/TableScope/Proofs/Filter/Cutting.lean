import TableScope.Proofs.Filter.Spelling

/-! # Where conditions are cut

A text is a condition if it holds an operator, and it is then cut at the first place of the first
operator that it holds (`Condition.Cut`). This determines the parts; a condition written with blanks
around its parts is cut into them again if they are separable (`parse_cuts`).
-/
set_option autoImplicit false

namespace TableScope.Condition

/-! ## Searching for operators in turn -/

variable {s l r : List Char} {op : Operator} {operators : List Operator}

theorem cut?_eq_none_iff :
    cut? s operators = none ↔ ∀ op ∈ operators, Text.occurs op.spelling.toList s = false := by
  induction operators with
  | nil => exact ⟨fun _ => nofun, fun _ => rfl⟩
  | cons op others ih =>
    rw [List.forall_mem_cons, ← ih, cut?, Text.occurs, Option.isSome_eq_false_iff,
      Option.isNone_iff_eq_none]
    cases Text.split? op.spelling.toList s with
    | none => simp
    | some cut => simp

theorem cut?_eq_some_iff : cut? s operators = some (l, op, r) ↔
    ∃ earlier later, operators = earlier ++ op :: later ∧
      (∀ other ∈ earlier, Text.occurs other.spelling.toList s = false) ∧
      Text.split? op.spelling.toList s = some (l, r) := by
  constructor
  · intro h
    induction operators with
    | nil => cases h
    | cons first others ih =>
      rw [cut?] at h
      cases hs : Text.split? first.spelling.toList s with
      | some cut =>
        rw [hs] at h
        cases h
        exact ⟨[], others, rfl, List.forall_mem_nil _, hs⟩
      | none =>
        rw [hs] at h
        obtain ⟨earlier, later, rfl, he, hcut⟩ := ih h
        have hfirst : Text.occurs first.spelling.toList s = false := by rw [Text.occurs, hs]; rfl
        exact ⟨first :: earlier, later, rfl, List.forall_mem_cons.mpr ⟨hfirst, he⟩, hcut⟩
  · rintro ⟨earlier, later, rfl, he, hcut⟩
    exact cut?_append he hcut

/-! ## Conditions -/

/-- The text is cut into the condition: at the first place of its operator, with none before the
operator in the text, and blank ends taken off both sides. -/
structure Cut (text : List Char) (condition : Condition) (l r : List Char) : Prop where
  text_eq : text = l ++ condition.operator.spelling.toList ++ r
  first : ∀ before after, text = before ++ condition.operator.spelling.toList ++ after →
    l.length ≤ before.length
  free : ∀ other : Operator, other.Precedes condition.operator → ¬ other.spelling.toList <:+: text
  column_eq : condition.column.toList = Text.trim l
  literal_eq : condition.literal.toList = Text.trim r

theorem parse_eq_error_iff {text : String} {e : FilterError} :
    parse text = .error e ↔ Operator.Free text.toList ∧ e = .invalidCondition text := by
  rw [Operator.free_iff, ← cut?_eq_none_iff, parse]
  cases cut? text.toList Operator.all with
  | none => exact ⟨fun h => by cases h; exact ⟨rfl, rfl⟩, fun h => by rw [h.2]⟩
  | some cut =>
    constructor
    · intro h
      cases h
    · rintro ⟨h, -⟩
      cases h

theorem parse_eq_ok_iff {text : String} {condition : Condition} :
    parse text = .ok condition ↔ ∃ l r, Cut text.toList condition l r := by
  constructor
  · intro h
    rw [parse] at h
    cases hcut : cut? text.toList Operator.all with
    | none => rw [hcut] at h; cases h
    | some cut =>
      obtain ⟨l, op, r⟩ := cut
      rw [hcut] at h
      cases h
      obtain ⟨earlier, later, hall, he, hsplit⟩ := cut?_eq_some_iff.mp hcut
      obtain ⟨htext, hfirst⟩ := Text.split?_eq_some_iff.mp hsplit
      refine ⟨l, r, htext, hfirst, ?_, String.toList_ofList, String.toList_ofList⟩
      intro other ho
      exact Text.not_occurs_iff.mp (he other ((Operator.mem_earlier_iff hall other).mpr ho))
  · rintro ⟨l, r, htext, hfirst, hfree, hcolumn, hliteral⟩
    obtain ⟨earlier, later, hall⟩ := List.append_of_mem (Operator.mem_all condition.operator)
    have he : ∀ other ∈ earlier, Text.occurs other.spelling.toList text.toList = false :=
      fun other ho =>
        Text.not_occurs_iff.mpr (hfree other ((Operator.mem_earlier_iff hall other).mp ho))
    rw [parse, hall, cut?_append he (Text.split?_eq_some_iff.mpr ⟨htext, hfirst⟩)]
    simp only [← hcolumn, ← hliteral, String.ofList_toList]

/-- A text without operators is no condition. Any other is cut in one way, and separable parts with
blanks around them are found again. -/
theorem parse_cuts :
    (∀ (text : String) (e : FilterError), parse text = .error e ↔
      (∀ op : Operator, ¬ op.spelling.toList <:+: text.toList) ∧ e = .invalidCondition text) ∧
    (∀ (text : String) (condition : Condition), parse text = .ok condition ↔
      ∃ l r, Cut text.toList condition l r) ∧
    (∀ condition : Condition, condition.Separable → ∀ gaps : Gaps,
      parse (String.ofList (condition.spaced gaps)) = .ok condition) :=
  ⟨fun _ _ => parse_eq_error_iff, fun _ _ => parse_eq_ok_iff, fun _ h gaps => parse_spaced h gaps⟩

/-- Operators that are searched for later may stand in the column, and the operator in the literal. -/
theorem parse_cuts_spaced :
    let condition : Condition := ⟨"x contains", .relation .gt, "a>b<c"⟩
    let gaps : Gaps := ⟨['\t'], [' ', '\u3000'], [' '], ['\n'], List.cons_ne_nil _ _,
      List.cons_ne_nil _ _, List.all_eq_true.mp rfl⟩
    condition.Separable ∧
      String.ofList (condition.spaced gaps) = "\tx contains \u3000> a>b<c\n" ∧
      parse (String.ofList (condition.spaced gaps)) = .ok condition ∧
      parse "x = 1" = .error (.invalidCondition "x = 1") := by
  intro condition gaps
  have hcolumn : Text.occurs ">".toList "x contains".toList = false := by decide
  have hearlier : ∀ other ∈ Operator.all, other.Precedes (.relation .gt) →
      Text.occurs other.spelling.toList "x contains".toList = false ∧
        Text.occurs other.spelling.toList "a>b<c".toList = false := by decide
  have hseparable : condition.Separable :=
    ⟨by decide, by decide, Text.not_occurs_iff.mp hcolumn, fun other ho =>
      (hearlier other (Operator.mem_all other) ho).imp Text.not_occurs_iff.mp Text.not_occurs_iff.mp⟩
  have hfree : Operator.Free "x = 1".toList := Operator.free_iff.mpr (by decide)
  obtain ⟨refused, -, spaced⟩ := parse_cuts
  refine ⟨hseparable, by decide, spaced condition hseparable gaps, ?_⟩
  exact (refused "x = 1" _).mpr ⟨hfree, rfl⟩

end TableScope.Condition
