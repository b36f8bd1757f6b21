import TableScope.Filter.Condition
import TableScope.Proofs.Number.Numerals
import TableScope.Proofs.Text.Parts

/-! # Spelled conditions and literals

A condition is written with blanks around its parts, at least one on either side of the operator
(`Condition.spaced`); single ones make its plain form (`Condition.text`). No operator is spelled with a
blank, a quote or anything that integers are written with, and none of those that are searched for
before an operator stands in it; hence a written condition is cut where it was put together, unless one
of its parts holds an operator that is found before (`Condition.parse_spaced`). An integer is read from
its digits. A text is read for itself between quotes if it spells neither a truth value nor a number,
and without quotes if it begins with digits and a separator, as dates and times do
(`Literal.ofText_separated`).
-/
set_option autoImplicit false

namespace TableScope

namespace Operator

/-- No operator stands in the text. -/
def Free (s : List Char) : Prop := ∀ op : Operator, ¬ op.spelling.toList <:+: s

/-- The blank, the quote, and what integers are written with. -/
def foreignChars : List Char := ' ' :: '\'' :: '-' :: Numeral.digitChars

theorem not_mem_spelling (op : Operator) : ∀ c ∈ foreignChars, c ∉ op.spelling.toList := by
  have hall : (foreignChars.all fun c => !op.spelling.toList.contains c) = true := by
    rcases op with r | t
    · cases r <;> rfl
    · cases t <;> rfl
  intro c hc hm
  have hc := List.all_eq_true.mp hall c hc
  rw [List.contains_iff_mem.mpr hm] at hc
  cases hc

theorem all_pairwise : all.Pairwise fun earlier later =>
    Text.occurs earlier.spelling.toList later.spelling.toList = false := by decide

theorem not_mem_spelling_of_isBlank (op : Operator) {c : Char} (hc : Text.isBlank c = true) :
    c ∉ op.spelling.toList := by
  have hall : (op.spelling.toList.all fun c => !Text.isBlank c) = true := by
    rcases op with r | t
    · cases r <;> rfl
    · cases t <;> rfl
  intro hm
  have hm := List.all_eq_true.mp hall c hm
  rw [hc] at hm
  cases hm

/-- A text is searched for the one operator before it is searched for the other. -/
def Precedes (earlier op : Operator) : Prop := all.idxOf earlier < all.idxOf op

instance (earlier op : Operator) : Decidable (earlier.Precedes op) :=
  inferInstanceAs (Decidable (all.idxOf earlier < all.idxOf op))

theorem mem_earlier_iff {earlier later : List Operator} {op : Operator}
    (h : all = earlier ++ op :: later) (other : Operator) :
    other ∈ earlier ↔ other.Precedes op := by
  have hnodup : all.Pairwise (· ≠ ·) := by decide
  rw [h, List.pairwise_append] at hnodup
  have hop : op ∉ earlier := fun hm => hnodup.2.2 op hm op List.mem_cons_self rfl
  rw [Precedes, h, List.idxOf_append_of_notMem hop, List.idxOf_cons_self, Nat.add_zero]
  constructor
  · intro hm
    rw [List.idxOf_append_of_mem hm]
    exact List.idxOf_lt_length_iff.mpr hm
  · intro hlt
    by_contra hm
    rw [List.idxOf_append_of_notMem hm] at hlt
    omega

theorem exists_earlier (op : Operator) : ∃ earlier later, all = earlier ++ op :: later ∧
    ∀ other ∈ earlier, Text.occurs other.spelling.toList op.spelling.toList = false := by
  obtain ⟨earlier, later, hall⟩ := List.append_of_mem (mem_all op)
  have hp := all_pairwise
  rw [hall, List.pairwise_append] at hp
  exact ⟨earlier, later, hall, fun other ho => hp.2.2 other ho op List.mem_cons_self⟩

variable {l r s : List Char} {c : Char}

theorem free_iff : Free s ↔ ∀ op ∈ all, Text.occurs op.spelling.toList s = false :=
  ⟨fun h op _ => Text.not_occurs_iff.mpr (h op),
    fun h op => Text.not_occurs_iff.mp (h op (mem_all op))⟩

theorem Free.occurs_eq (h : Free s) (op : Operator) : Text.occurs op.spelling.toList s = false :=
  free_iff.mp h op (mem_all op)

theorem Free.append_cons (hl : Free l) (hc : c ∈ foreignChars) (hr : Free r) :
    Free (l ++ c :: r) := by
  rw [free_iff]
  intro op _
  rw [Text.occurs_append_cons (not_mem_spelling op c hc), hl.occurs_eq, hr.occurs_eq]
  rfl

theorem free_of_forall_not_mem (h : ∀ c ∈ s, ∀ op : Operator, c ∉ op.spelling.toList) : Free s := by
  intro op hi
  obtain ⟨c, hc⟩ := List.exists_mem_of_ne_nil _ op.spelling_ne_nil
  exact h c (hi.subset hc) op hc

theorem free_of_forall_foreign (h : ∀ c ∈ s, c ∈ foreignChars) : Free s :=
  free_of_forall_not_mem fun c hc op => not_mem_spelling op c (h c hc)

end Operator

/-! ## Conditions -/

namespace Condition

def text (condition : Condition) : String :=
  condition.column ++ " " ++ condition.operator.spelling ++ " " ++ condition.literal

theorem cut?_append {s l r : List Char} {op : Operator} {earlier later : List Operator}
    (he : ∀ other ∈ earlier, Text.occurs other.spelling.toList s = false)
    (hs : Text.split? op.spelling.toList s = some (l, r)) :
    cut? s (earlier ++ op :: later) = some (l, op, r) := by
  induction earlier with
  | nil => rw [List.nil_append, cut?, hs]
  | cons other earlier ih =>
    obtain ⟨ho, he⟩ := List.forall_mem_cons.mp he
    have hn : Text.split? other.spelling.toList s = none := Option.not_isSome_iff_eq_none.mp
      (Bool.not_eq_true _ ▸ ho)
    rw [List.cons_append, cut?, hn]
    exact ih he

/-- Blanks to put around the parts of a condition. -/
structure Gaps where
  before : List Char
  left : List Char
  right : List Char
  after : List Char
  left_ne : left ≠ []
  right_ne : right ≠ []
  isBlank : ∀ c ∈ before ++ left ++ (right ++ after), Text.isBlank c = true

def spaced (condition : Condition) (gaps : Gaps) : List Char :=
  gaps.before ++ condition.column.toList ++ gaps.left ++
    (condition.operator.spelling.toList ++
      (gaps.right ++ (condition.literal.toList ++ gaps.after)))

/-- The parts have no blank ends, and none holds an operator that would be found before that of the
condition. -/
structure Separable (condition : Condition) : Prop where
  column_trimmed : Text.Trimmed condition.column.toList
  literal_trimmed : Text.Trimmed condition.literal.toList
  column_free : ¬ condition.operator.spelling.toList <:+: condition.column.toList
  earlier_free : ∀ other : Operator, other.Precedes condition.operator →
    ¬ other.spelling.toList <:+: condition.column.toList ∧
      ¬ other.spelling.toList <:+: condition.literal.toList

section Spaced

variable (condition : Condition) (gaps : Gaps)

theorem gap_not_mem {gap : List Char}
    (hg : ∀ c ∈ gap, c ∈ gaps.before ++ gaps.left ++ (gaps.right ++ gaps.after)) (op : Operator) :
    ∀ c ∈ gap, c ∉ op.spelling.toList :=
  fun c hc => op.not_mem_spelling_of_isBlank (gaps.isBlank c (hg c hc))

/-- No operator reaches from one part into another. -/
theorem occurs_spaced (op : Operator) :
    Text.occurs op.spelling.toList (condition.spaced gaps) =
      (Text.occurs op.spelling.toList condition.column.toList ||
        (Text.occurs op.spelling.toList condition.operator.spelling.toList ||
          Text.occurs op.spelling.toList condition.literal.toList)) := by
  have hp := op.spelling_ne_nil
  rw [spaced, List.append_assoc, List.append_assoc,
    Text.occurs_gap_append hp (gap_not_mem gaps (by simp +contextual) op),
    Text.occurs_append_gap_append hp (gap_not_mem gaps (by simp +contextual) op) gaps.left_ne,
    Text.occurs_append_gap_append hp (gap_not_mem gaps (by simp +contextual) op) gaps.right_ne,
    Text.occurs_append_gap hp (gap_not_mem gaps (by simp +contextual) op)]

variable {condition} in
theorem split?_spaced
    (h : ¬ condition.operator.spelling.toList <:+: condition.column.toList) :
    Text.split? condition.operator.spelling.toList (condition.spaced gaps) =
      some (gaps.before ++ condition.column.toList ++ gaps.left,
        gaps.right ++ (condition.literal.toList ++ gaps.after)) := by
  have hp := condition.operator.spelling_ne_nil
  have hspelling : ∀ c ∈ gaps.left, c ∉ condition.operator.spelling.toList :=
    gap_not_mem gaps (by simp +contextual) condition.operator
  -- the last blank before the operator is what the text is put together around
  rcases List.eq_nil_or_concat' gaps.left with hnil | ⟨left, last, hleft⟩
  · exact absurd hnil gaps.left_ne
  rw [hleft] at hspelling
  have hcolumn : Text.occurs condition.operator.spelling.toList
      (gaps.before ++ (condition.column.toList ++ left)) = false := by
    rw [Text.occurs_gap_append hp (gap_not_mem gaps (by simp +contextual) condition.operator),
      Text.occurs_append_gap hp fun c hc => hspelling c (List.mem_append_left [last] hc)]
    exact Text.not_occurs_iff.mpr h
  have htext : condition.spaced gaps = gaps.before ++ (condition.column.toList ++ left) ++
      last :: (condition.operator.spelling.toList ++
        (gaps.right ++ (condition.literal.toList ++ gaps.after))) := by
    simp [spaced, hleft]
  have hlast := hspelling last (by simp)
  rw [htext, Text.split?_append_cons hlast hcolumn, Text.split?_self]
  simp [hleft]

end Spaced

/-- Parts that are separable are read back, whatever blanks are put around them. -/
theorem parse_spaced {condition : Condition} (h : condition.Separable) (gaps : Gaps) :
    parse (String.ofList (condition.spaced gaps)) = .ok condition := by
  obtain ⟨earlier, later, hall, hearlier⟩ := condition.operator.exists_earlier
  have hfree : ∀ other ∈ earlier,
      Text.occurs other.spelling.toList (condition.spaced gaps) = false := by
    intro other ho
    obtain ⟨hcolumn, hliteral⟩ := h.earlier_free other ((Operator.mem_earlier_iff hall other).mp ho)
    rw [occurs_spaced, Text.not_occurs_iff.mpr hcolumn, hearlier other ho,
      Text.not_occurs_iff.mpr hliteral]
    rfl
  have hcolumn : Text.trim (gaps.before ++ condition.column.toList ++ gaps.left) =
      condition.column.toList := by
    rw [Text.trim_append_blanks fun c hc => gaps.isBlank c (by simp [hc]),
      Text.trim_blanks_append fun c hc => gaps.isBlank c (by simp [hc]),
      Text.trim_of_trimmed _ h.column_trimmed]
  have hliteral : Text.trim (gaps.right ++ (condition.literal.toList ++ gaps.after)) =
      condition.literal.toList := by
    rw [Text.trim_blanks_append fun c hc => gaps.isBlank c (by simp [hc]),
      Text.trim_append_blanks fun c hc => gaps.isBlank c (by simp [hc]),
      Text.trim_of_trimmed _ h.literal_trimmed]
  rw [parse, String.toList_ofList, hall, cut?_append hfree (split?_spaced gaps h.column_free)]
  simp only [hcolumn, hliteral, String.ofList_toList]

theorem parse_text (condition : Condition)
    (hc : Text.Trimmed condition.column.toList) (hcf : Operator.Free condition.column.toList)
    (hl : Text.Trimmed condition.literal.toList) (hlf : Operator.Free condition.literal.toList) :
    parse condition.text = .ok condition := by
  have hseparable : condition.Separable :=
    ⟨hc, hl, hcf condition.operator, fun other _ => ⟨hcf other, hlf other⟩⟩
  have hblank : ∀ c ∈ [' ', ' '], Text.isBlank c = true := List.all_eq_true.mp rfl
  have htext : condition.text = String.ofList (condition.spaced
      ⟨[], [' '], [' '], [], List.cons_ne_nil _ _, List.cons_ne_nil _ _, hblank⟩) := by
    rw [← String.toList_inj]
    simp [text, spaced]
  rw [htext]
  exact parse_spaced hseparable _

end Condition

/-! ## Literals -/

namespace Literal

variable {s : List Char} {quote : Char}

/-! ### Quotes -/

def quotes : List Char := ['\'', '"']

/-- The text is one between two equal quotes. -/
def Wrapped (s : List Char) : Prop := ∃ quote ∈ quotes, ∃ t, s = quote :: (t ++ [quote])

theorem isQuotedBy_iff : isQuotedBy quote s = true ↔ ∃ t, s = quote :: (t ++ [quote]) := by
  constructor
  · intro h
    simp only [isQuotedBy, Bool.and_eq_true, decide_eq_true_eq, beq_iff_eq] at h
    obtain ⟨⟨hlength, hhead⟩, hlast⟩ := h
    obtain ⟨r, rfl⟩ := List.head?_eq_some_iff.mp hhead
    rcases List.eq_nil_or_concat' r with rfl | ⟨t, last, rfl⟩
    · simp at hlength
    · rw [← List.cons_append, List.getLast?_concat] at hlast
      exact ⟨t, by rw [Option.some.inj hlast]⟩
  · rintro ⟨t, rfl⟩
    simp [isQuotedBy, List.getLast?_cons]

theorem wrapped_iff : Wrapped s ↔ (isQuotedBy '\'' s || isQuotedBy '"' s) = true := by
  rw [Bool.or_eq_true, isQuotedBy_iff, isQuotedBy_iff]
  simp [Wrapped, quotes]

instance (s : List Char) : Decidable (Wrapped s) := decidable_of_iff _ wrapped_iff.symm

theorem unquote_wrapped (hq : quote ∈ quotes) (t : List Char) :
    unquote (quote :: (t ++ [quote])) = t := by
  rw [unquote, if_pos (wrapped_iff.mp ⟨quote, hq, t, rfl⟩), List.drop_one, List.tail_cons,
    List.dropLast_concat]

theorem unquote_of_not_wrapped (h : ¬ Wrapped s) : unquote s = s := by
  rw [unquote, if_neg (mt wrapped_iff.mpr h)]

theorem unquote_of_head? (h : ∀ c, s.head? = some c → c ∉ quotes) : unquote s = s := by
  apply unquote_of_not_wrapped
  rintro ⟨quote, hq, t, rfl⟩
  exact h quote rfl hq

/-! ### Integers -/

theorem trimmed_text (i : Int) : Text.Trimmed (Int.text i) := by
  have hall : (('-' :: Numeral.digitChars).all fun c => !Text.isBlank c) = true := rfl
  have hb : ∀ c ∈ Int.text i, Text.isBlank c = false := fun c hc =>
    (Bool.not_eq_true' _).mp (List.all_eq_true.mp hall c (Numeral.mem_text hc))
  exact ⟨fun c hc => hb c (List.mem_of_head? hc), fun c hc => hb c (List.mem_of_getLast? hc)⟩

theorem unquote_text (i : Int) : unquote (Int.text i) = Int.text i := by
  have hforeign : ∀ c ∈ '-' :: Numeral.digitChars, c ∉ quotes :=
    List.forall_iff_forall_mem.mp (by decide)
  exact unquote_of_head? fun c hc => hforeign c (Numeral.mem_text (List.mem_of_head? hc))

theorem sameWord_text (i : Int) {word : List Char}
    (hw : ∃ c ∈ word, c.toLower ∉ '-' :: Numeral.digitChars) :
    sameWord (Int.text i) word = false := by
  have hall : (('-' :: Numeral.digitChars).all fun c => c.toLower == c) = true := rfl
  have hl : ∀ c ∈ '-' :: Numeral.digitChars, c.toLower = c :=
    fun c hc => beq_iff_eq.mp (List.all_eq_true.mp hall c hc)
  obtain ⟨c, hc, hf⟩ := hw
  apply beq_false_of_ne
  intro heq
  -- a letter of the word would have to be among the characters of the integer
  obtain ⟨d, hd, hdc⟩ := List.mem_map.mp (heq ▸ List.mem_map_of_mem hc)
  rw [hl d (Numeral.mem_text hd)] at hdc
  exact hf (hdc ▸ Numeral.mem_text hd)

theorem int64?_toInt (k : Int64) : int64? k.toInt = some k := by
  rw [int64?, if_pos, Int64.ofInt_toInt]
  simp only [Bool.and_eq_true, decide_eq_true_eq]
  exact ⟨k.minValue_le_toInt, k.toInt_le⟩

theorem number?_text (k : Int64) : number? (Int.text k.toInt) = some (integer k) := by
  have hp : (Int.text k.toInt).contains '.' = false := by
    have hf : '.' ∉ '-' :: Numeral.digitChars := by decide
    rw [← Bool.not_eq_true, List.contains_iff_mem]
    exact fun h => hf (Numeral.mem_text h)
  rw [number?, hp, Numeral.integer?_text]
  simp only [Bool.false_eq_true, if_false, Option.bind_some, int64?_toInt, Option.map_some]

theorem ofText_text (k : Int64) : ofText (Int.text k.toInt) = integer k := by
  rw [ofText, unquote_text, sameWord_text _ ⟨'t', by decide, by decide⟩,
    sameWord_text _ ⟨'f', by decide, by decide⟩, Text.trim_of_trimmed _ (trimmed_text _),
    number?_text]
  rfl

/-! ### Strings -/

/-- The text spells neither a truth value nor a number. -/
structure Plain (s : List Char) : Prop where
  notTrue : sameWord s "true".toList = false
  notFalse : sameWord s "false".toList = false
  notInteger : '.' ∉ Text.trim s → ∀ i, Numeral.integer? (Text.trim s) = some i →
    ¬ (-2 ^ 63 ≤ i ∧ i < 2 ^ 63)
  notDecimal : '.' ∈ Text.trim s → Numeral.decimal? (Text.trim s) = none

theorem int64?_eq_none {i : Int} (h : ¬ (-2 ^ 63 ≤ i ∧ i < 2 ^ 63)) : int64? i = none := by
  rw [int64?, if_neg]
  simp only [Bool.and_eq_true, decide_eq_true_eq]
  intro hb
  have hmin : Int64.minValue.toInt = -2 ^ 63 := by decide
  have hmax : Int64.maxValue.toInt = 2 ^ 63 - 1 := by decide
  omega

theorem Plain.number?_eq_none (h : Plain s) : number? (Text.trim s) = none := by
  rw [number?]
  split
  · next hp => rw [h.notDecimal (List.contains_iff_mem.mp hp), Option.map_none]
  · next hp =>
    cases hi : Numeral.integer? (Text.trim s) with
    | none => rfl
    | some i =>
      have hpoint : '.' ∉ Text.trim s := fun hm => hp (List.contains_iff_mem.mpr hm)
      rw [Option.bind_some, int64?_eq_none (h.notInteger hpoint i hi)]
      rfl

theorem ofText_quoted (h : Plain s) :
    ofText ('\'' :: (s ++ ['\''])) = string (String.ofList s) := by
  rw [ofText, unquote_wrapped (by decide), h.notTrue, h.notFalse, h.number?_eq_none]
  rfl

/-! ### Dates and times -/

section Separated

variable {whole rest : List Char} {c : Char}

/-- The characters that end the first field of a date or a time. -/
def separators : List Char := ['-', ':']

theorem isDigit_separator (hc : c ∈ separators) : c.isDigit = false := by
  rcases List.mem_pair.mp hc with rfl | rfl <;> rfl

theorem integer?_separated (hw : whole ≠ []) (hd : ∀ d ∈ whole, d.isDigit = true)
    (hc : c ∈ separators) : Numeral.integer? (whole ++ c :: rest) = none := by
  cases whole with
  | nil => exact absurd rfl hw
  | cons d whole =>
    have hnone : Numeral.digits? (d :: whole ++ c :: rest) = none := by
      rw [Numeral.digits?, if_neg]
      simp [isDigit_separator hc]
    rw [Numeral.integer?, List.cons_append, Numeral.signed_of_isDigit (hd d List.mem_cons_self)]
    simp only
    rw [← List.cons_append, hnone]
    rfl

theorem decimal?_separated (hw : whole ≠ []) (hd : ∀ d ∈ whole, d.isDigit = true)
    (hc : c ∈ separators) : Numeral.decimal? (whole ++ c :: rest) = none := by
  have hexponent : (c == 'e' || c == 'E') = false := by
    rcases List.mem_pair.mp hc with rfl | rfl <;> rfl
  have hpoint : c ≠ '.' := by rcases List.mem_pair.mp hc with rfl | rfl <;> decide
  have hspan : (whole ++ c :: rest).span Char.isDigit = (whole, c :: rest) := by
    apply Text.span_append hd
    rintro d ⟨⟩
    exact isDigit_separator hc
  have hnone : Numeral.unsigned? (whole ++ c :: rest) = none := by
    rw [Numeral.unsigned?, hspan]
    simp only
    split
    · next heq => exact absurd (List.cons.inj heq).1 hpoint
    · simp only [Numeral.exponent?, hexponent, Bool.false_eq_true, if_false, Option.map_none]
      cases Numeral.digits? (whole ++ []) <;> rfl
  cases whole with
  | nil => exact absurd rfl hw
  | cons d whole =>
    rw [Numeral.decimal?, List.cons_append, Numeral.signed_of_isDigit (hd d List.mem_cons_self)]
    simp only
    rw [← List.cons_append, hnone, Option.map_none]

theorem sameWord_digit {d : Char} (hd : d.isDigit = true) (s : List Char) :
    sameWord (d :: s) "true".toList = false ∧ sameWord (d :: s) "false".toList = false := by
  have hlower : d.toLower ≠ 't' ∧ d.toLower ≠ 'f' :=
    Numeral.forall_isDigit (p := fun d => d.toLower ≠ 't' ∧ d.toLower ≠ 'f') (by decide) hd
  obtain ⟨ht, hf⟩ := hlower
  constructor
  · exact beq_false_of_ne fun heq => ht (List.cons.inj heq).1
  · exact beq_false_of_ne fun heq => hf (List.cons.inj heq).1

theorem unquote_digit {d : Char} (hd : d.isDigit = true) (s : List Char) :
    unquote (d :: s) = d :: s := by
  have hquote : d ∉ quotes := Numeral.forall_isDigit (p := fun d => d ∉ quotes) (by decide) hd
  exact unquote_of_head? fun c hc => Option.some.inj hc ▸ hquote

/-- A text that begins with digits and a separator is no truth value, no number and not quoted. -/
theorem ofText_separated (hw : whole ≠ []) (hd : ∀ d ∈ whole, d.isDigit = true)
    (hc : c ∈ separators) (hb : ∀ d ∈ rest, Text.isBlank d = false) :
    ofText (whole ++ c :: rest) = string (String.ofList (whole ++ c :: rest)) := by
  have hblank : ∀ d ∈ whole ++ c :: rest, Text.isBlank d = false := by
    intro d hm
    rcases List.mem_append.mp hm with hm | hm
    · exact Numeral.forall_isDigit (p := fun d => Text.isBlank d = false) (by decide) (hd d hm)
    · rcases List.mem_cons.mp hm with rfl | hm
      · rcases List.mem_pair.mp hc with rfl | rfl <;> rfl
      · exact hb d hm
  have htrim : Text.trim (whole ++ c :: rest) = whole ++ c :: rest :=
    Text.trim_of_trimmed _ ⟨fun d h => hblank d (List.mem_of_head? h),
      fun d h => hblank d (List.mem_of_getLast? h)⟩
  have hnumber : number? (whole ++ c :: rest) = none := by
    rw [number?, integer?_separated hw hd hc, decimal?_separated hw hd hc]
    split <;> rfl
  cases whole with
  | nil => exact absurd rfl hw
  | cons d whole =>
    have hdigit := hd d List.mem_cons_self
    rw [List.cons_append] at htrim hnumber ⊢
    rw [ofText, unquote_digit hdigit, (sameWord_digit hdigit _).1, (sameWord_digit hdigit _).2,
      htrim, hnumber]
    rfl

end Separated

end Literal

end TableScope
