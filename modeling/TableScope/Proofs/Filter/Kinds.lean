import TableScope.Proofs.Filter.Spelling
import TableScope.Proofs.Number.Grammar
import TableScope.Proofs.Number.Rounding

/-! # Kinds of literals

The text of a literal is what is written without a pair of quotes (`Unquoted`). A truth value, an
integer in range and a decimal with a point have grammars of their own, and any other text is a string
(`Spells`). A decimal stands for the number nearest to it. Every text is read as the one literal that
it spells (`ofText_classifies`).
-/
set_option autoImplicit false

namespace TableScope.Literal

open Numeral (IsInteger IsDecimal)

/-- The text of a literal, without the one pair of quotes that it may be written in. -/
inductive Unquoted : List Char → List Char → Prop
  | wrapped (quote : Char) (hq : quote ∈ quotes) (t : List Char) :
    Unquoted (quote :: (t ++ [quote])) t
  | plain (t : List Char) (h : ¬ Wrapped t) : Unquoted t t

/-- What a text stands for. Blanks around numbers do not count, and belong to a string. -/
inductive Spells (t : List Char) : Literal → Prop
  | boolean (b : Bool) (h : t.map Char.toLower = Cell.booleanText b) : Spells t (boolean b)
  | integer (k : Int64) (h : IsInteger (Text.trim t) k.toInt) : Spells t (integer k)
  | float (negative : Bool) (d : Decimal) (place : Fin (BinaryFormat.binary64.top + 1))
    (h : IsDecimal (Text.trim t) negative d) (hr : BinaryFormat.binary64.Rounds d.value place) :
    Spells t (float (.number negative place))
  | string (notBoolean : ∀ b, t.map Char.toLower ≠ Cell.booleanText b)
    (notInteger : ∀ i, IsInteger (Text.trim t) i → ¬ (-2 ^ 63 ≤ i ∧ i < 2 ^ 63))
    (notDecimal : ∀ negative d, ¬ IsDecimal (Text.trim t) negative d) :
    Spells t (string (String.ofList t))

variable {raw s t : List Char} {literal : Literal} {b negative : Bool} {i : Int} {k : Int64}
  {d : Decimal}

theorem unquoted_iff : Unquoted raw t ↔ unquote raw = t := by
  constructor
  · intro h
    cases h with
    | wrapped quote hq t => exact unquote_wrapped hq t
    | plain t h => exact unquote_of_not_wrapped h
  · rintro rfl
    by_cases h : Wrapped raw
    · obtain ⟨quote, hq, t, rfl⟩ := h
      rw [unquote_wrapped hq]
      exact .wrapped quote hq t
    · rw [unquote_of_not_wrapped h]
      exact .plain raw h

/-! ## Truth values -/

theorem sameWord_booleanText :
    sameWord t (Cell.booleanText b) = true ↔ t.map Char.toLower = Cell.booleanText b := by
  have hlower : (Cell.booleanText b).map Char.toLower = Cell.booleanText b := by cases b <;> decide
  rw [sameWord, hlower, beq_iff_eq]

/-- A text with a digit is no truth value. -/
theorem not_boolean (h : ∃ c ∈ Text.trim t, c.isDigit = true) (b : Bool) :
    t.map Char.toLower ≠ Cell.booleanText b := by
  obtain ⟨c, hc, hd⟩ := h
  have hlower : c.toLower.isDigit = true :=
    Numeral.forall_isDigit (p := fun c => c.toLower.isDigit = true) (by decide) hd
  have hletters : ((Cell.booleanText b).all fun c => !c.isDigit) = true := by cases b <;> rfl
  intro heq
  have hm : c.toLower ∈ Cell.booleanText b := heq ▸ List.mem_map_of_mem (Text.mem_of_mem_trim hc)
  have hletter := List.all_eq_true.mp hletters c.toLower hm
  rw [hlower] at hletter
  cases hletter

/-! ## Numbers -/

theorem toInt_ofInt (h : -2 ^ 63 ≤ i ∧ i < 2 ^ 63) : (Int64.ofInt i).toInt = i :=
  Int64.toInt_ofInt_of_le h.1 h.2

theorem int64?_eq_some_iff : int64? i = some k ↔ k.toInt = i := by
  constructor
  · intro h
    by_cases hi : -2 ^ 63 ≤ i ∧ i < 2 ^ 63
    · have hk := int64?_toInt (Int64.ofInt i)
      rw [toInt_ofInt hi, h, Option.some.injEq] at hk
      rw [hk, toInt_ofInt hi]
    · rw [int64?_eq_none hi] at h
      cases h
  · rintro rfl
    exact int64?_toInt k

theorem number?_of_point (hp : '.' ∈ s) : number? s =
    (Numeral.decimal? s).map fun (negative, d) => .float (d.toBinary .binary64 negative) := by
  rw [number?, if_pos (List.contains_iff_mem.mpr hp)]

theorem number?_of_no_point (hp : '.' ∉ s) :
    number? s = ((Numeral.integer? s).bind int64?).map .integer := by
  rw [number?, if_neg (mt List.contains_iff_mem.mp hp)]

theorem number?_eq_some_iff : number? s = some literal ↔
    (∃ k : Int64, IsInteger s k.toInt ∧ literal = .integer k) ∨
      ∃ negative d, IsDecimal s negative d ∧ literal = .float (d.toBinary .binary64 negative) := by
  by_cases hp : '.' ∈ s
  · rw [number?_of_point hp, Option.map_eq_some_iff]
    constructor
    · rintro ⟨⟨negative, d⟩, hd, rfl⟩
      exact .inr ⟨negative, d, (Numeral.decimal?_eq_some_iff hp).mp hd, rfl⟩
    · rintro (⟨k, hk, -⟩ | ⟨negative, d, hd, rfl⟩)
      · exact absurd hp hk.point_not_mem
      · exact ⟨_, (Numeral.decimal?_eq_some_iff hp).mpr hd, rfl⟩
  · rw [number?_of_no_point hp, Option.map_eq_some_iff]
    constructor
    · rintro ⟨k, hk, rfl⟩
      obtain ⟨i, hi, hk⟩ := Option.bind_eq_some_iff.mp hk
      rw [← int64?_eq_some_iff.mp hk] at hi
      exact .inl ⟨k, Numeral.integer?_eq_some_iff.mp hi, rfl⟩
    · rintro (⟨k, hk, rfl⟩ | ⟨negative, d, hd, -⟩)
      · exact ⟨k, Option.bind_eq_some_iff.mpr
          ⟨k.toInt, Numeral.integer?_eq_some_iff.mpr hk, int64?_toInt k⟩, rfl⟩
      · exact absurd hd.point_mem hp

theorem number?_eq_none_iff : number? s = none ↔
    (∀ i, IsInteger s i → ¬ (-2 ^ 63 ≤ i ∧ i < 2 ^ 63)) ∧
      ∀ negative d, ¬ IsDecimal s negative d := by
  rw [Option.eq_none_iff_forall_ne_some]
  constructor
  · intro h
    refine ⟨fun i hi hrange => ?_, fun negative d hd => ?_⟩
    · rw [← toInt_ofInt hrange] at hi
      exact h _ (number?_eq_some_iff.mpr (.inl ⟨_, hi, rfl⟩))
    · exact h _ (number?_eq_some_iff.mpr (.inr ⟨negative, d, hd, rfl⟩))
  · rintro ⟨hinteger, hdecimal⟩ literal hn
    rcases number?_eq_some_iff.mp hn with ⟨k, hk, -⟩ | ⟨negative, d, hd, -⟩
    · exact hinteger k.toInt hk ⟨k.minValue_le_toInt, k.toInt_lt⟩
    · exact hdecimal negative d hd

theorem toBinary_eq_iff {place : Fin (BinaryFormat.binary64.top + 1)} :
    d.toBinary .binary64 negative = .number negative place ↔
      BinaryFormat.binary64.Rounds d.value place := by
  have hround := Decimal.rounds_place (f := .binary64) (by decide) d
  rw [Decimal.toBinary, Binary.number.injEq, Fin.ext_iff]
  constructor
  · rintro ⟨-, hplace⟩
    exact hplace ▸ hround
  · exact fun hr => ⟨rfl, hround.unique hr⟩

theorem Spells.decimal (h : IsDecimal (Text.trim t) negative d) :
    Spells t (.float (d.toBinary .binary64 negative)) :=
  .float negative d _ h (d.rounds_place (by decide))

/-! ## Texts -/

theorem ofText_eq (raw : List Char) : ofText raw =
    if sameWord (unquote raw) (Cell.booleanText true) then .boolean true
    else if sameWord (unquote raw) (Cell.booleanText false) then .boolean false
    else (number? (Text.trim (unquote raw))).getD (.string (String.ofList (unquote raw))) := rfl

/-- What is read of a text that is no truth value. -/
theorem ofText_of_not_boolean (h : ∀ b, (unquote raw).map Char.toLower ≠ Cell.booleanText b) :
    ofText raw =
      (number? (Text.trim (unquote raw))).getD (.string (String.ofList (unquote raw))) := by
  rw [ofText_eq, if_neg (mt sameWord_booleanText.mp (h true)),
    if_neg (mt sameWord_booleanText.mp (h false))]

theorem ofText_of_boolean (h : (unquote raw).map Char.toLower = Cell.booleanText b) :
    ofText raw = .boolean b := by
  cases b with
  | true => rw [ofText_eq, if_pos (sameWord_booleanText.mpr h)]
  | false =>
    -- the text is compared with the other word first
    have hne : (unquote raw).map Char.toLower ≠ Cell.booleanText true := by
      rw [h]
      decide
    rw [ofText_eq, if_neg (mt sameWord_booleanText.mp hne), if_pos (sameWord_booleanText.mpr h)]

theorem spells_ofText (raw : List Char) : Spells (unquote raw) (ofText raw) := by
  by_cases hb : ∃ b, (unquote raw).map Char.toLower = Cell.booleanText b
  · obtain ⟨b, hb⟩ := hb
    rw [ofText_of_boolean hb]
    exact .boolean b hb
  · rw [ofText_of_not_boolean (not_exists.mp hb)]
    cases hn : number? (Text.trim (unquote raw)) with
    | some literal =>
      rcases number?_eq_some_iff.mp hn with ⟨k, hk, rfl⟩ | ⟨negative, d, hd, rfl⟩
      · exact .integer k hk
      · exact .decimal hd
    | none =>
      obtain ⟨hinteger, hdecimal⟩ := number?_eq_none_iff.mp hn
      exact .string (not_exists.mp hb) hinteger hdecimal

theorem ofText_of_spells (h : Spells (unquote raw) literal) : ofText raw = literal := by
  cases h with
  | boolean b h => exact ofText_of_boolean h
  | integer k h =>
    rw [ofText_of_not_boolean (not_boolean h.exists_digit),
      number?_eq_some_iff.mpr (.inl ⟨k, h, rfl⟩)]
    rfl
  | float negative d place h hr =>
    rw [ofText_of_not_boolean (not_boolean h.exists_digit),
      number?_eq_some_iff.mpr (.inr ⟨negative, d, h, rfl⟩), toBinary_eq_iff.mpr hr]
    rfl
  | string notBoolean notInteger notDecimal =>
    rw [ofText_of_not_boolean notBoolean, number?_eq_none_iff.mpr ⟨notInteger, notDecimal⟩]
    rfl

theorem ofText_eq_iff (h : Unquoted raw t) : ofText raw = literal ↔ Spells t literal := by
  rw [← unquoted_iff.mp h]
  constructor
  · rintro rfl
    exact spells_ofText raw
  · exact ofText_of_spells

theorem existsUnique_spells (t : List Char) : ∃! literal, Spells t literal := by
  have hu : Unquoted ('"' :: (t ++ ['"'])) t := .wrapped '"' (by decide) t
  exact ⟨ofText _, (ofText_eq_iff hu).mp rfl, fun literal h => ((ofText_eq_iff hu).mpr h).symm⟩

theorem ofText_of_out_of_range (hu : Unquoted raw t) (hi : IsInteger (Text.trim t) i)
    (hr : ¬ (-2 ^ 63 ≤ i ∧ i < 2 ^ 63)) : ofText raw = .string (String.ofList t) :=
  (ofText_eq_iff hu).mpr (.string (not_boolean hi.exists_digit) (fun _ hj => hi.unique hj ▸ hr)
    fun _ _ hd => hi.point_not_mem hd.point_mem)

theorem ofText_ne_nan (raw : List Char) : ofText raw ≠ .float .nan := by
  intro h
  have hs := spells_ofText raw
  rw [h] at hs
  cases hs

theorem ofText_wrapped {quote : Char} (hq : quote ∈ quotes) (hs : ¬ Wrapped s) :
    ofText (quote :: (s ++ [quote])) = ofText s :=
  (ofText_eq_iff (.wrapped quote hq s)).mpr ((ofText_eq_iff (.plain s hs)).mp rfl)

/-- The kinds exclude each other and leave no text out. A literal is read as what its text spells:
never as "not a number", nor as an integer out of range. Either quote may be put around a text, which
does not change what it is read as unless there are quotes around it already. -/
theorem ofText_classifies :
    (∀ raw, ∃! t, Unquoted raw t) ∧
    (∀ t, ∃! literal, Spells t literal) ∧
    (∀ raw t literal, Unquoted raw t → (ofText raw = literal ↔ Spells t literal)) ∧
    (∀ raw, ofText raw ≠ .float .nan) ∧
    (∀ raw t i, Unquoted raw t → IsInteger (Text.trim t) i → ¬ (-2 ^ 63 ≤ i ∧ i < 2 ^ 63) →
      ofText raw = .string (String.ofList t)) ∧
    (∀ s, ofText ('\'' :: (s ++ ['\''])) = ofText ('"' :: (s ++ ['"']))) ∧
    (∀ s, ¬ Wrapped s → ∀ quote ∈ quotes, ofText (quote :: (s ++ [quote])) = ofText s) := by
  refine ⟨fun raw => ?_, existsUnique_spells, fun _ _ _ => ofText_eq_iff, ofText_ne_nan,
    fun _ _ _ => ofText_of_out_of_range, fun s => ?_, fun s hs quote hq => ofText_wrapped hq hs⟩
  · exact ⟨unquote raw, unquoted_iff.mpr rfl, fun t h => (unquoted_iff.mp h).symm⟩
  · have hsingle := (ofText_eq_iff (.wrapped '\'' (by decide) s)).mp rfl
    exact ((ofText_eq_iff (.wrapped '"' (by decide) s)).mpr hsingle).symm

/-- A decimal with a blank inside the quotes, the first integer out of range, and a text that ends in
a quote. -/
theorem ofText_classifies_quoted :
    ofText "'-.5 '".toList = .float (Decimal.toBinary .binary64 true ⟨5, -1⟩) ∧
      ofText "\"9223372036854775808\"".toList = .string "9223372036854775808" ∧
      ofText "\"x'\"".toList = ofText "x'".toList := by
  obtain ⟨-, -, classified, -, outOfRange, -, wrapped⟩ := ofText_classifies
  have hdecimal : IsDecimal (Text.trim "-.5 ".toList) true ⟨5, -1⟩ :=
    (Numeral.decimal?_eq_some_iff (by decide)).mp (by decide)
  have hinteger : IsInteger (Text.trim "9223372036854775808".toList) (2 ^ 63) :=
    Numeral.integer?_eq_some_iff.mp (by decide)
  refine ⟨?_, ?_, ?_⟩
  · exact (classified _ _ _ (.wrapped '\'' (by decide) "-.5 ".toList)).mpr (.decimal hdecimal)
  · exact outOfRange _ _ _ (.wrapped '"' (by decide) "9223372036854775808".toList) hinteger
      (by decide)
  · exact wrapped "x'".toList (by decide) '"' (by decide)

end TableScope.Literal
