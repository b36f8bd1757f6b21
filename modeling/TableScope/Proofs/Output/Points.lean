import TableScope.Output.Csv
import TableScope.Output.Grid
import TableScope.Proofs.Filter.Displayed
import TableScope.Proofs.Number.Whole
import TableScope.Proofs.Text.Joining

/-! # Points in the texts of floats

A finite float is shown in the same way in a grid, in a record and in a condition: by a sign if it is
negative, and digits. Below `10 ^ 16` there are digits on both sides of a point, and the text is read as
the float again. From there on the float is an integer, its digits end before the point and the point is
left out (`Cell.point_not_mem_digitsText`); what is read is no float (`Cell.fraction_shown`).
-/
set_option autoImplicit false

namespace TableScope

/-! ## Texts that are shown as they are -/

theorem Csv.field_of_ordinary {s : List Char} (h : ∀ c ∈ s, isSpecial c = false) : field s = s := by
  rw [field, if_neg]
  rw [List.any_eq_true]
  rintro ⟨c, hc, hspecial⟩
  rw [h c hc] at hspecial
  cases hspecial

/-- A text without a point is not read as a float. -/
theorem Literal.point_mem_of_ofText {raw : List Char} {x : Binary64} (h : ofText raw = .float x) :
    '.' ∈ raw := by
  have hspells := spells_ofText raw
  rw [h] at hspells
  cases hspells with
  | float negative d place hd hr =>
    have hpoint := Text.mem_of_mem_trim hd.point_mem
    rw [unquote] at hpoint
    split at hpoint
    · exact List.mem_of_mem_drop (List.mem_of_mem_dropLast hpoint)
    · exact hpoint

/-- Digits that end before the point have none if no zero is to stand after it. -/
theorem Layout.point_not_mem_setPositional {d : Decimal} (he : 0 ≤ d.exponent) :
    '.' ∉ setPositional d.digits d.exponent false := by
  rw [setPositional, if_pos he]
  intro hpoint
  simp only [List.mem_append] at hpoint
  have hdigit : ('.').isDigit = true := by
    rcases hpoint with (hc | hc) | hc
    · exact d.isDigit_of_mem_digits hc
    · exact Numeral.Parts.isDigit_of_mem_zeros hc
    · cases hc
  cases hdigit

namespace Cell

open BinaryFormat (binary64)

variable {negative : Bool} {place : Fin (binary64.top + 1)} {x : Binary64} {magnitude : ℚ}

/-! ## Digits -/

/-- A point has digits on both sides. -/
theorem exists_fraction (h : '.' ∈ digitsText place) :
    ∃ whole fraction, Numeral.IsDigits whole ∧ Numeral.IsDigits fraction ∧
      digitsText place = whole ++ '.' :: fraction := by
  obtain ⟨p, hp, hspells⟩ := Layout.setPositional_parts
    (Decimal.shortest binary64 floatLayout.tie place)
    (floatLayout.pointZero _)
  have htext : digitsText place = p.whole ++ (p.fractionText ++ p.exponentText) := by
    rw [digitsText, hp, Numeral.Parts.text, List.append_assoc]
  have hexponent : p.exponentText = [] := by
    cases he : p.exponentText with
    | nil => rfl
    | cons c s =>
      -- an exponent would begin with a letter
      have hc : c ∈ digitsText place := by simp [htext, he]
      rcases Layout.mem_setPositional hc with hd | rfl
      · exact absurd (p.isDigit_head?_exponentText c (by rw [he]; rfl)) (by simp [hd])
      · exact absurd (p.head?_exponentText '.' (by rw [he]; rfl)) (by decide)
  have hwhole : ∀ c ∈ p.whole, c.isDigit = true := fun c hc =>
    hspells.isDigit c (List.mem_append_left _ hc)
  rw [hexponent, List.append_nil] at htext
  rw [Numeral.Parts.fractionText] at htext
  split at htext
  · rw [htext, List.append_nil] at h
    exact absurd rfl (Numeral.ne_of_isDigit (hwhole _ h)).2.2
  · next hfraction =>
    exact ⟨p.whole, p.fraction, ⟨hspells.whole_ne, hwhole⟩,
      ⟨hfraction, fun c hc => hspells.isDigit c (List.mem_append_right _ hc)⟩, htext⟩

/-- A float from `10 ^ 16` on has a shortest decimal without a fraction and of at least this order. -/
theorem order_shortest (h : (10 : ℚ) ^ 16 ≤ binary64.magnitude place) :
    let d := Decimal.shortest binary64 floatLayout.tie place
    0 ≤ d.exponent ∧ (16 : ℤ) ≤ d.digits.length - 1 + d.exponent := by
  intro d
  have hbits : 1 ≤ binary64.exponentBits := by decide
  have hle := Nat.le_of_lt_succ place.isLt
  obtain ⟨n, hn⟩ : ∃ n, binary64.units place = n * 2 ^ binary64.scale :=
    BinaryFormat.exists_whole (le_trans (by norm_num [binary64]) h)
  have hmagnitude : binary64.magnitude place = n := BinaryFormat.magnitude_eq_natCast hn
  have hlarge : 10 ^ 16 ≤ n := by exact_mod_cast hmagnitude ▸ h
  have hgrid : ∀ m k : ℕ, n = m * 10 ^ k → (k : ℤ) ≤ d.exponent := by
    rintro m k rfl
    have hm : 0 < m := Nat.pos_of_ne_zero fun hz => by simp [hz] at hlarge
    exact Decimal.le_exponent_shortest hbits hle hm hn
  refine ⟨hgrid n 0 (by omega), ?_⟩
  rcases Nat.lt_or_eq_of_le hlarge with hlt | heq
  · have hrounds := Decimal.rounds_shortest hbits floatLayout.tie hle
    have hvalue : ((10 ^ 16 : ℕ) : ℚ) < d.value :=
      hrounds.lt_of_lt_magnitude ⟨5 ^ 16, 16, by decide, by decide⟩
        (by rw [hmagnitude]; exact_mod_cast hlt)
    have hpow : (10 : ℚ) ^ (16 : ℤ) < 10 ^ (d.digits.length + d.exponent) :=
      lt_trans (by exact_mod_cast hvalue) d.value_lt
    have horder := (zpow_lt_zpow_iff_right₀ (by norm_num)).mp hpow
    omega
  · -- the float is on the grid of `10 ^ 16` itself
    have hexponent := hgrid 1 16 (by omega)
    have hdigits : 0 < d.digits.length := List.length_pos_of_ne_nil d.digits_ne_nil
    omega

/-- From `10 ^ 16` on the digits end before the point, and no zero is written after it. -/
theorem point_not_mem_digitsText (h : (10 : ℚ) ^ 16 ≤ binary64.magnitude place) :
    '.' ∉ digitsText place := by
  obtain ⟨hexponent, horder⟩ := order_shortest h
  have hzero : floatLayout.pointZero _ = false := decide_eq_false (not_lt.mpr horder)
  rw [digitsText, hzero]
  exact Layout.point_not_mem_setPositional hexponent

/-! ## Floats -/

/-- The text of a finite float is shown as it is, in a record, in a grid and in a condition. -/
theorem shown_float (hp : place.val ≠ binary64.top) :
    Csv.field (Csv.ofCell (float64 (.number negative place))) =
        (float64 (.number negative place)).text ∧
      Grid.block (float64 (.number negative place)) =
        [(float64 (.number negative place)).text] ∧
      (Literal.float (.number negative place)).needle =
        (float64 (.number negative place)).text := by
  have hordinary : ∀ c ∈ Numeral.numberChars, Csv.isSpecial c = false :=
    List.forall_iff_forall_mem.mp (by decide)
  have hline : '\n' ∉ Numeral.numberChars := by decide
  exact ⟨Csv.field_of_ordinary fun c hc => hordinary c (mem_numberChars hp hc),
    Text.pieces_of_not_mem fun hc => hline (mem_numberChars hp hc), rfl⟩

/-- Below `10 ^ 16` a finite float is shown with digits after a point and is read back; from there on it
is shown without a point and is read as no float. -/
theorem fraction_shown (hv : x.value = .finite negative magnitude) :
    let text := (float64 x).text
    (Csv.field (Csv.ofCell (float64 x)) = text ∧ Grid.block (float64 x) = [text] ∧
      (Literal.float x).needle = text) ∧
    (magnitude < 10 ^ 16 → ∃ whole fraction,
      Numeral.IsDigits whole ∧ Numeral.IsDigits fraction ∧
      text = (signOf negative).text ++ (whole ++ '.' :: fraction) ∧
      Literal.ofText text = .float x) ∧
    (10 ^ 16 ≤ magnitude → ∃ digits,
      Numeral.IsDigits digits ∧ text = (signOf negative).text ++ digits ∧
      ∀ y, Literal.ofText text ≠ .float y) := by
  intro text
  obtain ⟨place, rfl, hp, rfl⟩ := Binary.exists_place hv
  refine ⟨shown_float hp, fun h => ?_, fun h => ?_⟩
  · have hpoint := point_mem_digitsText hp h
    obtain ⟨whole, fraction, hw, hf, hdigits⟩ := exists_fraction hpoint
    exact ⟨whole, fraction, hw, hf, hdigits ▸ text_float hp, ofText_float_of_point hp hpoint⟩
  · have hpoint := point_not_mem_digitsText h
    refine ⟨digitsText place, digits_digitsText hpoint, text_float hp, fun y hy => ?_⟩
    have hmem := Literal.point_mem_of_ofText hy
    rw [show text = _ from text_float hp] at hmem
    rcases List.mem_append.mp hmem with hsign | hdigits
    · exact (signOf negative).point_not_mem hsign
    · exact hpoint hdigits

/-- The float `10 ^ 16`, and the one before it with a sign. -/
theorem fraction_shown_bound :
    let last : Binary64 := .number true 4846369599423283199
    let bound : Binary64 := .number false 4846369599423283200
    (last.value = .finite true 9999999999999998 ∧ (9999999999999998 : ℚ) < 10 ^ 16 ∧
      (float64 last).text = "-9999999999999998.0".toList ∧
      Literal.ofText (float64 last).text = .float last) ∧
    (bound.value = .finite false (10 ^ 16) ∧ (10 : ℚ) ^ 16 ≤ 10 ^ 16 ∧
      (float64 bound).text = "10000000000000000".toList ∧
      Csv.field (Csv.ofCell (float64 bound)) = (float64 bound).text ∧
      Grid.block (float64 bound) = [(float64 bound).text] ∧
      (Literal.float bound).needle = (float64 bound).text ∧
      ∀ y, Literal.ofText (float64 bound).text ≠ .float y) := by
  intro last bound
  have hlast : last.value = .finite true 9999999999999998 := by decide +kernel
  have hbound : bound.value = .finite false (10 ^ 16) := by decide +kernel
  have hlt : (9999999999999998 : ℚ) < 10 ^ 16 := by norm_num
  obtain ⟨-, fraction, -⟩ := fraction_shown hlast
  obtain ⟨⟨csv, grid, needle⟩, -, integral⟩ := fraction_shown hbound
  obtain ⟨-, -, -, -, -, read⟩ := fraction hlt
  obtain ⟨-, -, -, unread⟩ := integral le_rfl
  exact ⟨⟨hlast, hlt, by decide +kernel, read⟩,
    hbound, le_rfl, by decide +kernel, csv, grid, needle, unread⟩

end Cell

end TableScope
