import TableScope.Proofs.Number.Order

/-! # Shortest decimals of integers

A multiple of a power of ten is on the grid of that power, and reads back as itself. The search for the
shortest decimal starts above this grid and comes down to it at the latest
(`Decimal.le_exponent_shortest`), so the shortest decimal of an integer has no digits after the point.
From `2 ^ (fractionBits + 1)` on all numbers are integers (`BinaryFormat.exists_whole`).
-/
set_option autoImplicit false

namespace TableScope

namespace BinaryFormat

variable {f : BinaryFormat} {q : ℚ} {place n : Nat}

theorem exists_whole (h : ((2 * 2 ^ f.fractionBits : ℕ) : ℚ) ≤ f.magnitude place) :
    ∃ n, f.units place = n * 2 ^ f.scale := by
  obtain ⟨factor, shift, hf, hunits⟩ := f.representable_units place
  rw [magnitude, le_div_iff₀ (by positivity)] at h
  have hle : 2 * 2 ^ f.fractionBits * 2 ^ f.scale ≤ factor * 2 ^ shift :=
    hunits ▸ (by exact_mod_cast h)
  have hscale : f.scale ≤ shift := by
    by_contra hlt
    have hpow : 2 ^ shift ≤ 2 ^ f.scale := Nat.pow_le_pow_right Nat.two_pos (by omega)
    have hless : factor * 2 ^ shift < 2 * 2 ^ f.fractionBits * 2 ^ f.scale :=
      Nat.mul_lt_mul_of_lt_of_le hf hpow (Nat.two_pow_pos _)
    omega
  refine ⟨factor * 2 ^ (shift - f.scale), ?_⟩
  rw [hunits, Nat.mul_assoc, ← Nat.pow_add, Nat.sub_add_cancel hscale]

/-- A number that is rounded to one above an integer of the format is above the integer itself. -/
theorem Rounds.lt_of_lt_magnitude (h : f.Rounds q place) (hn : f.Representable n)
    (hlt : (n : ℚ) < f.magnitude place) : (n : ℚ) < q := by
  obtain ⟨other, hother⟩ := hn.exists_magnitude
  rw [← hother] at hlt ⊢
  by_contra hle
  have hplace := f.magnitude_strictMono.lt_iff_lt.mp hlt
  have hrounds := rounds_magnitude (hplace.le.trans h.le_top)
  exact absurd (h.mono hrounds (not_lt.mp hle)) (not_le.mpr hplace)

end BinaryFormat

namespace Decimal

variable {f : BinaryFormat} {tie : Tie} {place n k : Nat} {exponent : Int} {d : Decimal}

theorem onGrid?_multiple (he : 1 ≤ f.exponentBits) (hp : place ≤ f.top)
    (hu : f.units place = n * 10 ^ k * 2 ^ f.scale) : onGrid? f tie place k = some ⟨n, k⟩ := by
  have hstep : 0 < 2 ^ f.scale * 10 ^ k := Nat.mul_pos (Nat.two_pow_pos _) (Nat.pow_pos (by decide))
  have hvalue : f.units place * 10 ^ (-(k : Int)).toNat = n * (2 ^ f.scale * 10 ^ k) := by
    rw [hu, show (-(k : Int)).toNat = 0 by omega]
    ring
  have hplace : (⟨n, k⟩ : Decimal).place f = place := by
    apply place_of_value_eq he hp
    rw [value, BinaryFormat.magnitude, hu, zpow_natCast]
    push_cast
    field_simp
  have hdown : roundsUp tie n 0 (2 ^ f.scale * 10 ^ k) = false := by
    rw [roundsUp, Nat.mul_zero, Nat.compare_eq_lt.mpr hstep]
  simp only [onGrid?, Nat.pow_eq, hvalue, Int.toNat_natCast, Nat.mul_div_cancel _ hstep,
    Nat.mul_mod_left, hdown, Bool.false_eq_true, if_false, hplace, if_true]

theorem le_exponent_shortestFrom (h : onGrid? f tie place exponent = some d) {steps : Nat}
    (hs : exponent + f.scale ≤ steps) : exponent ≤ (shortestFrom f tie place steps).exponent := by
  induction steps with
  | zero =>
    change exponent ≤ -(f.scale : Int)
    omega
  | succ steps ih =>
    rw [shortestFrom]
    split
    · next other hother =>
      rw [(of_onGrid? hother).1]
      omega
    · next hnone =>
      apply ih
      have hne : exponent ≠ (steps + 1 - f.scale : Int) := by
        rintro rfl
        rw [h] at hnone
        cases hnone
      omega

theorem le_gridCount (hn : 0 < n) (hu : f.units place = n * 10 ^ k * 2 ^ f.scale) :
    k + f.scale ≤ gridCount f place := by
  have hbits : 2 ^ (3 * k + f.scale) ≤ f.units place := by
    have hten : 2 ^ (3 * k) ≤ 10 ^ k := by
      rw [Nat.pow_mul]
      exact Nat.pow_le_pow_left (by decide) k
    rw [hu, Nat.pow_add]
    exact Nat.mul_le_mul_right _ (hten.trans (Nat.le_mul_of_pos_left _ hn))
  have hpos : f.units place ≠ 0 := Nat.ne_of_gt (Nat.lt_of_lt_of_le (Nat.two_pow_pos _) hbits)
  have hlog := (Nat.le_log2 hpos).mpr hbits
  rw [gridCount, if_neg (by omega)]
  omega

/-- The shortest decimal of a multiple of a power of ten has no digits below that power. -/
theorem le_exponent_shortest (he : 1 ≤ f.exponentBits) (hp : place ≤ f.top) (hn : 0 < n)
    (hu : f.units place = n * 10 ^ k * 2 ^ f.scale) :
    (k : Int) ≤ (shortest f tie place).exponent := by
  have hplace : place ≠ 0 := by
    rintro rfl
    have hzero := f.units_of_lt (Nat.two_pow_pos f.fractionBits)
    rw [hzero] at hu
    have hpow : 0 < n * 10 ^ k * 2 ^ f.scale := by positivity
    omega
  rw [shortest, if_neg hplace]
  exact le_exponent_shortestFrom (onGrid?_multiple he hp hu) (by exact_mod_cast le_gridCount hn hu)

end Decimal

end TableScope
