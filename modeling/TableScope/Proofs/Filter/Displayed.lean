import TableScope.Proofs.Filter.Kinds
import TableScope.Proofs.Number.Layouts
import TableScope.Proofs.Number.Order
import TableScope.Proofs.Table.Partition

/-! # Literals from the texts of cells

The text of a cell can be put into a condition, and selects what is equal to the cell
(`text_selects_itself`). Truth values, integers and floats with a point in their text are read as
themselves. From `10 ^ 16` on an integral float has no point, and its text is read as the integer that its
digits spell. This integer need not be the float, but the float is the nearest to it, and the two compare
as floats.
-/
set_option autoImplicit false

namespace TableScope

/-! ## Texts without an exponent -/

namespace Numeral

/-- The characters of a number that is written without an exponent. -/
def numberChars : List Char := '-' :: '.' :: digitChars

variable {s : List Char}

/-- Digits alone are also a decimal. -/
theorem decimal?_digits (sign : Sign) (h : IsDigits s) :
    decimal? (sign.text ++ s) = some (sign.isMinus, ⟨Nat.ofDigitChars 10 s 0, 0⟩) := by
  have hhead : ∀ c, s.head? = some c → c ≠ '+' ∧ c ≠ '-' := fun c hc =>
    have hne := ne_of_isDigit (h.isDigit c (List.mem_of_head? hc))
    ⟨hne.1, hne.2.1⟩
  have hspan : s.span Char.isDigit = (s, []) := by
    have hs := Text.span_append (r := []) h.isDigit nofun
    rwa [List.append_nil] at hs
  have hdigits : digits? (s ++ []) = some (Nat.ofDigitChars 10 s 0) := by
    rw [List.append_nil]
    exact digits?_eq_some_iff.mpr ⟨h, rfl⟩
  have hunsigned : unsigned? s = some ⟨Nat.ofDigitChars 10 s 0, 0⟩ := by
    rw [unsigned?, hspan]
    simp only [hdigits, Option.bind_some, exponent?, Option.map_some, List.length_nil, Int.natCast_zero,
      Int.sub_zero]
  rw [decimal?, signed_append sign hhead]
  simp only [hunsigned, Option.map_some]

end Numeral

namespace Literal

variable {s : List Char} {literal : Literal}

/-- A number has no quotes and no blanks, and is no truth value. -/
theorem ofText_of_number? (hs : ∀ c ∈ s, c ∈ Numeral.numberChars) (hn : number? s = some literal) :
    ofText s = literal := by
  have hquotes : ∀ c ∈ Numeral.numberChars, c ∉ quotes :=
    List.forall_iff_forall_mem.mp (by decide)
  have hblanks : ∀ c ∈ Numeral.numberChars, Text.isBlank c = false :=
    List.forall_iff_forall_mem.mp (by decide)
  have hunquote : unquote s = s :=
    unquote_of_head? fun c hc => hquotes c (hs c (List.mem_of_head? hc))
  have htrim : Text.trim s = s := Text.trim_of_trimmed s
    ⟨fun c hc => hblanks c (hs c (List.mem_of_head? hc)),
      fun c hc => hblanks c (hs c (List.mem_of_getLast? hc))⟩
  have hdigit : ∃ c ∈ Text.trim s, c.isDigit = true := by
    rw [htrim]
    rcases number?_eq_some_iff.mp hn with ⟨k, hk, -⟩ | ⟨negative, d, hd, -⟩
    · exact hk.exists_digit
    · exact hd.exists_digit
  rw [ofText_of_not_boolean (by rw [hunquote]; exact not_boolean hdigit), hunquote, htrim, hn]
  rfl

end Literal

namespace Layout

variable {d : Decimal} {pointZero : Bool} {c : Char}

theorem mem_setPositional (h : c ∈ setPositional d.digits d.exponent pointZero) :
    c.isDigit = true ∨ c = '.' := by
  have hdigits : c ∈ d.digits → c.isDigit = true ∨ c = '.' := fun hc =>
    .inl (d.isDigit_of_mem_digits hc)
  have hzeros : ∀ n, c ∈ List.replicate n '0' → c.isDigit = true ∨ c = '.' := fun n hc =>
    .inl (Numeral.Parts.isDigit_of_mem_zeros hc)
  rw [setPositional] at h
  split at h
  · simp only [List.mem_append] at h
    rcases h with (h | h) | h
    · exact hdigits h
    · exact hzeros _ h
    · cases pointZero with
      | false => cases h
      | true =>
        rcases List.mem_pair.mp h with rfl | rfl
        · exact .inr rfl
        · exact .inl rfl
  · dsimp only at h
    split at h
    · rcases List.mem_append.mp h with h | h
      · exact hdigits (List.mem_of_mem_take h)
      · rcases List.mem_cons.mp h with rfl | h
        · exact .inr rfl
        · exact hdigits (List.mem_of_mem_drop h)
    · simp only [List.mem_cons, List.mem_append] at h
      rcases h with rfl | rfl | h | h
      · exact .inl rfl
      · exact .inr rfl
      · exact hzeros _ h
      · exact hdigits h

theorem pointZero_of_point_not_mem (h : '.' ∉ setPositional d.digits d.exponent pointZero) :
    pointZero = false := by
  cases pointZero with
  | false => rfl
  | true =>
    refine absurd ?_ h
    rw [setPositional]
    split
    · simp
    · dsimp only
      split <;> simp

end Layout

/-! ## Floats -/

theorem Decimal.rounds_shortest {f : BinaryFormat} (he : 1 ≤ f.exponentBits) (tie : Tie) {place : Nat}
    (hp : place ≤ f.top) : f.Rounds (shortest f tie place).value place := by
  have hrounds := (shortest f tie place).rounds_place he
  rwa [place_shortest he tie hp] at hrounds

namespace Binary

variable {f : BinaryFormat} {x : Binary f} {negative : Bool} {magnitude : ℚ} {n : Nat}
  {place : Fin (f.top + 1)}

theorem exists_place (h : x.value = .finite negative magnitude) :
    ∃ place, x = .number negative place ∧ place.val ≠ f.top ∧ f.magnitude place = magnitude := by
  cases x with
  | nan => cases h
  | number sign place =>
    rw [value] at h
    split at h
    · cases h
    · next htop =>
      cases h
      exact ⟨place, rfl, htop, rfl⟩

/-- An integer stands where the number does that is the nearest to its magnitude. -/
theorem rank_ofInt (h : f.Rounds n place) (sign : Numeral.Sign) :
    (ofInt (sign.apply n) : Binary f).rank = (number sign.isMinus place : Binary f).rank := by
  have hrounds := rounds_ofInt f (sign.apply n)
  have habs : (sign.apply n).natAbs = n := by
    rw [Numeral.Sign.apply]
    split <;> omega
  rw [habs] at hrounds
  have hplace := hrounds.unique h
  rw [ofInt, ofRatio, rank, rank, habs]
  simp only [hplace, decide_eq_true_eq]
  rw [Numeral.Sign.apply]
  cases sign.isMinus with
  | false => rw [if_neg Bool.false_ne_true, if_neg (by omega), if_neg Bool.false_ne_true]
  | true =>
    rw [if_pos rfl, if_pos rfl]
    split
    · rfl
    · -- the integer is zero, and so is the number
      have hn : n = 0 := by omega
      rw [hn, Nat.cast_zero] at h
      have hone : 2 * (0 : ℚ) < f.magnitude 1 := by
        rw [mul_zero]
        exact f.magnitude_pos Nat.one_pos
      rw [h.unique (BinaryFormat.rounds_zero hone)]
      rfl

end Binary

namespace Cell

open BinaryFormat (binary64)

variable {negative : Bool} {place : Fin (binary64.top + 1)} {c : Char}

/-- The digits of a finite float as they are shown, without the sign. -/
def digitsText (place : Nat) : List Char :=
  let d := Decimal.shortest binary64 floatLayout.tie place
  Layout.setPositional d.digits d.exponent (floatLayout.pointZero (d.digits.length - 1 + d.exponent))

/-- The sign of a float as it is shown. -/
def signOf (negative : Bool) : Numeral.Sign := if negative then .minus else .none

theorem text_float (hp : place.val ≠ binary64.top) :
    (float64 (.number negative place)).text = (signOf negative).text ++ digitsText place := by
  rw [text, Layout.text, if_neg hp]
  cases negative <;> rfl

theorem isMinus_signOf : (signOf negative).isMinus = negative := by
  cases negative <;> rfl

theorem mem_numberChars (hp : place.val ≠ binary64.top)
    (hc : c ∈ (float64 (.number negative place)).text) : c ∈ Numeral.numberChars := by
  rw [text_float hp] at hc
  rcases List.mem_append.mp hc with hc | hc
  · cases negative with
    | false => cases hc
    | true => exact List.mem_singleton.mp hc ▸ List.mem_cons_self
  · rcases Layout.mem_setPositional hc with hc | rfl
    · exact List.mem_cons_of_mem _ (List.mem_cons_of_mem _ (Numeral.mem_digitChars hc))
    · exact List.mem_cons_of_mem _ List.mem_cons_self

theorem digits_digitsText (h : '.' ∉ digitsText place) : Numeral.IsDigits (digitsText place) where
  ne_nil := by
    obtain ⟨p, hp, hspells⟩ := Layout.setPositional_parts
      (Decimal.shortest binary64 floatLayout.tie place)
      (floatLayout.pointZero _)
    rw [digitsText, hp, Numeral.Parts.text, List.append_assoc]
    exact List.append_ne_nil_of_left_ne_nil hspells.whole_ne _
  isDigit := by
    intro c hc
    rcases Layout.mem_setPositional hc with hd | rfl
    · exact hd
    · exact absurd hc h

/-- Below `10 ^ 16` there is a point. -/
theorem point_mem_digitsText (hp : place.val ≠ binary64.top)
    (h : binary64.magnitude place < (10 : ℚ) ^ 16) : '.' ∈ digitsText place := by
  by_contra hpoint
  have hbits : 1 ≤ binary64.exponentBits := by decide
  have hle := Nat.le_of_lt_succ place.isLt
  obtain ⟨d, hd⟩ : ∃ d, Decimal.shortest binary64 floatLayout.tie place = d := ⟨_, rfl⟩
  have hlarge : (16 : ℤ) ≤ d.digits.length - 1 + d.exponent := by
    have hzero := Layout.pointZero_of_point_not_mem hpoint
    rw [hd] at hzero
    simpa [floatLayout] using hzero
  have hcoefficient : d.coefficient ≠ 0 := by
    intro hz
    have hzero := Decimal.shortest_eq_zero hbits hle (hd ▸ hz)
    rw [hd] at hzero
    rw [hzero] at hlarge
    exact absurd hlarge (by decide)
  have hrounds := Decimal.rounds_shortest hbits floatLayout.tie hle
  rw [hd] at hrounds
  have hlt : d.value < ((10 ^ 16 : Nat) : ℚ) :=
    hrounds.lt_of_magnitude_lt hp ⟨5 ^ 16, 16, by decide, by decide⟩ (by exact_mod_cast h)
  have hpow : (10 : ℚ) ^ (16 : ℤ) ≤ 10 ^ (d.digits.length + d.exponent - 1) :=
    zpow_le_zpow_right₀ (by decide) (by omega)
  have hvalue := hpow.trans (Decimal.le_value hcoefficient)
  push_cast at hlt
  exact absurd hlt (not_lt.mpr (by exact_mod_cast hvalue))

theorem ofText_float_of_point (hp : place.val ≠ binary64.top) (h : '.' ∈ digitsText place) :
    Literal.ofText (float64 (.number negative place)).text = .float (.number negative place) := by
  have hpoint : '.' ∈ (float64 (.number negative place)).text := by
    rw [text_float hp]
    exact List.mem_append_right _ h
  obtain ⟨d, hdecimal, hrounds⟩ :=
    floatLayout.decimal?_text (f := binary64) (by decide) negative hp
  refine Literal.ofText_of_number? (fun c => mem_numberChars hp) ?_
  rw [Literal.number?_of_point hpoint, text, hdecimal, Option.map_some]
  exact congrArg (some ∘ Literal.float) (Literal.toBinary_eq_iff.mpr hrounds)

/-- A float without a point is read as an integer that is rounded to it. -/
theorem ofText_float_of_no_point (negative : Bool) (hp : place.val ≠ binary64.top)
    (h : binary64.magnitude place < (2 : ℚ) ^ 63) (hpoint : '.' ∉ digitsText place) :
    ∃ k : Int64, Literal.ofText (float64 (.number negative place)).text = .integer k ∧
      (Binary.ofInt k.toInt : Binary64).rank = (Binary.number negative place : Binary64).rank := by
  obtain ⟨n, hn⟩ : ∃ n, Nat.ofDigitChars 10 (digitsText place) 0 = n := ⟨_, rfl⟩
  have hdigits := digits_digitsText hpoint
  have htext : (float64 (.number negative place)).text = (signOf negative).text ++ digitsText place :=
    text_float hp
  have hrounds : binary64.Rounds n place := by
    obtain ⟨d, hdecimal, hr⟩ :=
      floatLayout.decimal?_text (f := binary64) (by decide) negative hp
    have hread := Numeral.decimal?_digits (signOf negative) hdigits
    rw [← htext, text, hdecimal, hn, isMinus_signOf] at hread
    cases hread
    simpa [Decimal.value] using hr
  have hlt : n < 2 ^ 63 := by
    have hq := hrounds.lt_of_magnitude_lt hp (n := 2 ^ 63) ⟨1, 63, by decide, by decide⟩
      (by exact_mod_cast h)
    exact_mod_cast hq
  have hrange : -2 ^ 63 ≤ (signOf negative).apply n ∧ (signOf negative).apply n < 2 ^ 63 := by
    rw [Numeral.Sign.apply]
    split <;> omega
  have hk := Literal.toInt_ofInt hrange
  refine ⟨Int64.ofInt ((signOf negative).apply n), ?_, ?_⟩
  · refine Literal.ofText_of_number? (fun c => mem_numberChars hp) ?_
    rw [Literal.number?_eq_some_iff]
    refine .inl ⟨_, ?_, rfl⟩
    rw [hk, htext, ← hn]
    exact .intro (signOf negative) _ hdigits
  · rw [hk, Binary.rank_ofInt hrounds, isMinus_signOf]

/-! ## All kinds -/

/-- The cells that can be put into a condition: numbers that literals have room for, and truth values. -/
inductive Readable : Cell → Prop
  | boolean (value : Bool) : Readable (boolean value)
  | int64 (value : Int64) : Readable (int64 value)
  | uint64 (value : UInt64) (h : value.toNat < 2 ^ 63) : Readable (uint64 value)
  | float64 (x : Binary64) (negative : Bool) (magnitude : ℚ)
    (hv : x.value = .finite negative magnitude) (h : magnitude < 2 ^ 63) : Readable (float64 x)

theorem ofText_boolean (b : Bool) : Literal.ofText (boolean b).text = .boolean b :=
  Literal.ofText_of_boolean (by cases b <;> decide)

theorem ofText_uint64 {value : UInt64} (h : value.toNat < 2 ^ 63) :
    ∃ k : Int64, k.toInt = value.toNat ∧ Literal.ofText (uint64 value).text = .integer k := by
  have hk : (Int64.ofInt value.toNat).toInt = value.toNat :=
    Literal.toInt_ofInt ⟨by omega, by omega⟩
  refine ⟨Int64.ofInt value.toNat, hk, ?_⟩
  have htext : (uint64 value).text = Int.text (Int64.ofInt value.toNat).toInt := by
    rw [hk, Int.text, if_neg (not_lt.mpr (Int.natCast_nonneg _)), Int.natAbs_natCast, text]
  rw [htext, Literal.ofText_text]

theorem ofText_float64 {x : Binary64} {magnitude : ℚ} (hv : x.value = .finite negative magnitude)
    (h : magnitude < 10 ^ 16) : Literal.ofText (float64 x).text = .float x := by
  obtain ⟨place, rfl, hp, hm⟩ := Binary.exists_place hv
  exact ofText_float_of_point hp (point_mem_digitsText hp (hm ▸ h))

/-- The literal is of a kind that the type of the cell accepts, and the cell is equal to it. -/
theorem Readable.compare_ofText {cell : Cell} (h : cell.Readable) :
    ∃ type, cell.type? = some type ∧
      (∀ name position, (Predicate.comparing name position (.ofText cell.text) .eq).accepts type) ∧
      cell.compare (.ofText cell.text) = .ordered .eq := by
  have hequal : ∀ {i j : ℤ}, i = j → Comparison.ordered (Ord.compare i j) = .ordered .eq :=
    fun hij => congrArg Comparison.ordered (compare_eq_iff_eq.mpr hij)
  cases h with
  | boolean b =>
    rw [ofText_boolean]
    exact ⟨.boolean, rfl, fun _ _ => rfl, congrArg Comparison.ordered (compare_eq_iff_eq.mpr rfl)⟩
  | int64 k =>
    rw [text, Literal.ofText_text]
    exact ⟨.int64, rfl, fun _ _ => rfl, hequal rfl⟩
  | uint64 value h =>
    obtain ⟨k, hk, hread⟩ := ofText_uint64 h
    rw [hread]
    exact ⟨.uint64, rfl, fun _ _ => rfl, hequal hk.symm⟩
  | float64 x negative magnitude hv h =>
    obtain ⟨place, rfl, hp, hm⟩ := Binary.exists_place hv
    by_cases hpoint : '.' ∈ digitsText place
    · rw [ofText_float_of_point hp hpoint]
      exact ⟨.float64, rfl, fun _ _ => rfl, hequal rfl⟩
    · obtain ⟨k, hread, hrank⟩ :=
        ofText_float_of_no_point negative hp (hm ▸ h) hpoint
      rw [hread]
      exact ⟨.float64, rfl, fun _ _ => rfl, hequal hrank.symm⟩

/-- A cell is equal to what its text is read as, so a condition that asks for the text selects the rows
with the cell; and the text of an integer, a truth value or a float below `10 ^ 16` is read as the very
value. -/
theorem text_selects_itself :
    (∀ cell : Cell, cell.Readable → ∃ type, cell.type? = some type ∧
      cell.compare (.ofText cell.text) = .ordered .eq ∧
      ∀ name position,
        (Predicate.comparing name position (.ofText cell.text) .eq).checkType type = .ok () ∧
        ∀ row : Row, row[position]? = some cell →
          (Predicate.comparing name position (.ofText cell.text) .eq).evaluate row = .ok true) ∧
    (∀ b, Literal.ofText (boolean b).text = .boolean b) ∧
    (∀ k, Literal.ofText (int64 k).text = .integer k) ∧
    (∀ value : UInt64, value.toNat < 2 ^ 63 →
      ∃ k : Int64, k.toInt = value.toNat ∧ Literal.ofText (uint64 value).text = .integer k) ∧
    (∀ (x : Binary64) negative magnitude, x.value = .finite negative magnitude →
      magnitude < 10 ^ 16 → Literal.ofText (float64 x).text = .float x) := by
  refine ⟨fun cell h => ?_, ofText_boolean, Literal.ofText_text, fun _ => ofText_uint64,
    fun _ _ _ => ofText_float64⟩
  obtain ⟨type, htype, haccepts, hcompare⟩ := h.compare_ofText
  refine ⟨type, htype, hcompare, fun name position => ⟨?_, fun row hrow => ?_⟩⟩
  · exact Predicate.checkType_eq_ok_iff.mpr (haccepts name position)
  · rw [Predicate.evaluate_of_getElem? hrow]
    simp only [Predicate.test, Predicate.comparing, hcompare]
    rfl

/-- `2 ^ 62`, whose shortest digits spell another integer, the largest integer of a literal as an unsigned
one, and a zero with a sign. -/
theorem text_selects_itself_rounded :
    let power : Binary64 := .number false 4886405595696988160
    let largest : UInt64 := 9223372036854775807
    let zero : Binary64 := .number true 0
    ((float64 power).Readable ∧ (float64 power).text = "4611686018427388000".toList ∧
      Literal.ofText (float64 power).text = .integer 4611686018427388000 ∧
      ∃ type, (float64 power).type? = some type ∧
        (float64 power).compare (.ofText (float64 power).text) = .ordered .eq ∧
        (Predicate.comparing "size" 1 (.ofText (float64 power).text) .eq).checkType type = .ok () ∧
        (Predicate.comparing "size" 1 (.ofText (float64 power).text) .eq).evaluate
          [.null, float64 power] = .ok true) ∧
    (largest.toNat < 2 ^ 63 ∧
      ∃ k : Int64, k.toInt = largest.toNat ∧ Literal.ofText (uint64 largest).text = .integer k) ∧
    (zero.value = .finite true 0 ∧ (float64 zero).text = "-0.0".toList ∧
      Literal.ofText (float64 zero).text = .float zero) := by
  intro power largest zero
  obtain ⟨selects, -, -, unsigned, floats⟩ := text_selects_itself
  have hpower : power.value = .finite false (2 ^ 62) := by decide +kernel
  have hzero : zero.value = .finite true 0 := by decide +kernel
  have hreadable : (float64 power).Readable :=
    .float64 power false (2 ^ 62) hpower (pow_lt_pow_right₀ (by decide) (by decide))
  have hlargest : largest.toNat < 2 ^ 63 := by decide
  obtain ⟨type, htype, hcompare, hcondition⟩ := selects _ hreadable
  obtain ⟨hcheck, hevaluate⟩ := hcondition "size" 1
  refine ⟨⟨hreadable, by decide +kernel, by decide +kernel,
      type, htype, hcompare, hcheck, hevaluate [.null, float64 power] rfl⟩,
    ⟨hlargest, unsigned largest hlargest⟩, hzero, by decide +kernel, ?_⟩
  exact floats zero true 0 hzero (by decide)

end Cell

end TableScope
