import Mathlib.Algebra.Order.Field.Power
import Mathlib.Tactic.FieldSimp
import Mathlib.Tactic.Linarith
import Mathlib.Tactic.Positivity
import TableScope.Number.Decimal
import TableScope.Proofs.Number.Exactness
import TableScope.Proofs.Number.Numerals

/-! # Correct rounding

Of all places that of the nearest number is the rounded one, infinity standing where the next power of
two would, and of two the even one (`BinaryFormat.Rounds`). There is one such place (`Rounds.unique`), and
it is the one that decimals are read to (`Decimal.rounds_place`). Hence decimals of one value are read
alike, and the shortest decimal of a number is read as that number (`Decimal.place_shortest`).
-/
set_option autoImplicit false

namespace TableScope

namespace BinaryFormat

variable {f : BinaryFormat} {q : ℚ} {place other : Nat}

/-- The number at a place; at infinity it is the next power of two. -/
def magnitude (f : BinaryFormat) (place : Nat) : ℚ := f.units place / 2 ^ f.scale

structure Rounds (f : BinaryFormat) (q : ℚ) (place : Nat) : Prop where
  le_top : place ≤ f.top
  nearest : ∀ other ≤ f.top, other ≠ place →
    |q - f.magnitude place| < |q - f.magnitude other| ∨
      |q - f.magnitude place| = |q - f.magnitude other| ∧ place % 2 = 0

theorem magnitude_strictMono (f : BinaryFormat) : StrictMono f.magnitude := by
  intro a b hab
  have hp : (0 : ℚ) < 2 ^ f.scale := by positivity
  exact div_lt_div_of_pos_right (Nat.cast_lt.mpr (f.units_strictMono hab)) hp

theorem magnitude_zero (f : BinaryFormat) : f.magnitude 0 = 0 := by
  rw [magnitude, f.units_of_lt (Nat.two_pow_pos _), Nat.cast_zero, zero_div]

theorem magnitude_eq_natCast {n : Nat} (h : f.units place = n * 2 ^ f.scale) :
    f.magnitude place = n := by
  rw [magnitude, h]
  push_cast
  exact mul_div_cancel_right₀ _ (pow_ne_zero _ two_ne_zero)

/-! ## Middles -/

variable {a b : ℚ}

theorem abs_sub_lt_iff (h : a < b) : |q - a| < |q - b| ↔ 2 * q < a + b := by
  rw [← sq_lt_sq]
  constructor
  · intro hs
    by_contra hle
    nlinarith
  · intro hm
    nlinarith

theorem abs_sub_gt_iff (h : a < b) : |q - b| < |q - a| ↔ a + b < 2 * q := by
  rw [← sq_lt_sq]
  constructor
  · intro hs
    by_contra hle
    nlinarith
  · intro hm
    nlinarith

theorem abs_sub_eq_iff (h : a < b) : |q - a| = |q - b| ↔ 2 * q = a + b := by
  rw [eq_iff_le_not_lt, ← not_lt, abs_sub_gt_iff h, abs_sub_lt_iff h, eq_iff_le_not_lt, not_lt]

/-- The ratio is between the middles to the other places, and on one only if its place is even. -/
theorem rounds_iff : f.Rounds q place ↔ place ≤ f.top ∧
    (∀ other < place, f.magnitude other + f.magnitude place < 2 * q ∨
      2 * q = f.magnitude other + f.magnitude place ∧ place % 2 = 0) ∧
    (∀ other ≤ f.top, place < other → 2 * q < f.magnitude place + f.magnitude other ∨
      2 * q = f.magnitude place + f.magnitude other ∧ place % 2 = 0) := by
  have hbelow : ∀ other < place, (|q - f.magnitude place| < |q - f.magnitude other| ∨
      |q - f.magnitude place| = |q - f.magnitude other| ∧ place % 2 = 0) ↔
      (f.magnitude other + f.magnitude place < 2 * q ∨
        2 * q = f.magnitude other + f.magnitude place ∧ place % 2 = 0) := by
    intro other hlt
    have hm := f.magnitude_strictMono hlt
    rw [abs_sub_gt_iff hm, eq_comm, abs_sub_eq_iff hm]
  have habove : ∀ other, place < other → ((|q - f.magnitude place| < |q - f.magnitude other| ∨
      |q - f.magnitude place| = |q - f.magnitude other| ∧ place % 2 = 0) ↔
      (2 * q < f.magnitude place + f.magnitude other ∨
        2 * q = f.magnitude place + f.magnitude other ∧ place % 2 = 0)) := by
    intro other hlt
    have hm := f.magnitude_strictMono hlt
    rw [abs_sub_lt_iff hm, abs_sub_eq_iff hm]
  constructor
  · intro ⟨hp, hn⟩
    exact ⟨hp, fun other hlt => (hbelow other hlt).mp (hn other (hlt.le.trans hp) hlt.ne),
      fun other ho hlt => (habove other hlt).mp (hn other ho hlt.ne')⟩
  · intro ⟨hp, hb, ha⟩
    refine ⟨hp, fun other ho hne => ?_⟩
    rcases hne.lt_or_gt with hlt | hlt
    · exact (hbelow other hlt).mpr (hb other hlt)
    · exact (habove other hlt).mpr (ha other ho hlt)

theorem Rounds.unique (h : f.Rounds q place) (ho : f.Rounds q other) : place = other := by
  wlog hlt : place < other generalizing place other
  · by_contra hne
    exact hne (this ho h (lt_of_le_of_ne (not_lt.mp hlt) (Ne.symm hne))).symm
  obtain ⟨-, -, habove⟩ := rounds_iff.mp h
  obtain ⟨hp, hbelow, -⟩ := rounds_iff.mp ho
  rcases habove other hp hlt with hl | ⟨-, heven⟩
  · rcases hbelow place hlt with hg | ⟨he, -⟩ <;> linarith
  · rcases hbelow place hlt with hg | ⟨he, hother⟩
    · rcases habove other hp hlt with hl | ⟨he, -⟩ <;> linarith
    · -- between two even places there is an odd one, which is nearer than both
      have hnext : place + 1 < other := by omega
      have hm := f.magnitude_strictMono (Nat.lt_succ_self place)
      rcases hbelow (place + 1) hnext with hg | ⟨heq, -⟩
      · linarith
      · linarith

/-- It is enough to compare with the neighbours. -/
theorem rounds_of_neighbours (hp : place ≤ f.top)
    (hbelow : ∀ last, last + 1 = place → f.magnitude last + f.magnitude place < 2 * q ∨
      2 * q = f.magnitude last + f.magnitude place ∧ place % 2 = 0)
    (habove : place < f.top → 2 * q < f.magnitude place + f.magnitude (place + 1) ∨
      2 * q = f.magnitude place + f.magnitude (place + 1) ∧ place % 2 = 0) :
    f.Rounds q place := by
  rw [rounds_iff]
  refine ⟨hp, ?_, ?_⟩
  · intro other hlt
    obtain ⟨last, hlast⟩ := Nat.exists_eq_add_of_le' (Nat.one_le_of_lt hlt)
    have hneighbour := hbelow last hlast.symm
    rcases Nat.lt_or_eq_of_le (show other ≤ last by omega) with ho | rfl
    · have hm := f.magnitude_strictMono ho
      left
      rcases hneighbour with hn | ⟨hn, -⟩ <;> linarith
    · exact hneighbour
  · intro other ho hlt
    have hneighbour := habove (Nat.lt_of_lt_of_le hlt ho)
    rcases Nat.lt_or_eq_of_le (Nat.succ_le_of_lt hlt) with hn | rfl
    · have hm := f.magnitude_strictMono hn
      left
      rcases hneighbour with hn | ⟨hn, -⟩ <;> linarith
    · exact hneighbour

theorem rounds_top (h : f.magnitude f.top ≤ q) : f.Rounds q f.top := by
  refine rounds_of_neighbours le_rfl ?_ fun hlt => absurd hlt (lt_irrefl _)
  intro last hlast
  have hm := f.magnitude_strictMono (show last < f.top by omega)
  exact .inl (by linarith)

theorem rounds_zero (h : 2 * q < f.magnitude 1) : f.Rounds q 0 := by
  refine rounds_of_neighbours (Nat.zero_le _) nofun fun _ => .inl ?_
  rw [magnitude_zero, zero_add]
  exact h

theorem rounds_lower (hp : place ≤ f.top) (hq : f.magnitude place ≤ q)
    (h : 2 * q < f.magnitude place + f.magnitude (place + 1) ∨
      2 * q = f.magnitude place + f.magnitude (place + 1) ∧ place % 2 = 0) : f.Rounds q place := by
  refine rounds_of_neighbours hp ?_ fun _ => h
  rintro last rfl
  have hm := f.magnitude_strictMono (Nat.lt_succ_self last)
  exact .inl (by linarith)

theorem rounds_upper (hp : place < f.top) (hq : q < f.magnitude (place + 1))
    (h : f.magnitude place + f.magnitude (place + 1) < 2 * q ∨
      2 * q = f.magnitude place + f.magnitude (place + 1) ∧ (place + 1) % 2 = 0) :
    f.Rounds q (place + 1) := by
  refine rounds_of_neighbours hp ?_ ?_
  · intro last hlast
    rw [Nat.succ.inj hlast]
    exact h
  · intro _
    have hm := f.magnitude_strictMono (Nat.lt_succ_self (place + 1))
    exact .inl (by linarith)

theorem rounds_magnitude (hp : place ≤ f.top) : f.Rounds (f.magnitude place) place := by
  have hm := f.magnitude_strictMono (Nat.lt_succ_self place)
  exact rounds_lower hp le_rfl (.inl (by linarith))

/-! ## Ratios -/

section Ratio

variable (f) (num units : Nat) {den : Nat} (hd : 0 < den)

include hd

theorem div_lt_units_iff :
    (num / den : ℚ) < units / 2 ^ f.scale ↔ num * 2 ^ f.scale < units * den := by
  rw [div_lt_div_iff₀ (Nat.cast_pos.mpr hd) (by positivity)]
  exact_mod_cast Iff.rfl

theorem units_lt_div_iff :
    (units / 2 ^ f.scale : ℚ) < num / den ↔ units * den < num * 2 ^ f.scale := by
  rw [div_lt_div_iff₀ (by positivity) (Nat.cast_pos.mpr hd)]
  exact_mod_cast Iff.rfl

theorem div_eq_units_iff :
    (num / den : ℚ) = units / 2 ^ f.scale ↔ num * 2 ^ f.scale = units * den := by
  rw [eq_iff_le_not_lt, eq_iff_le_not_lt, ← not_lt, div_lt_units_iff f num units hd,
    units_lt_div_iff f num units hd, not_lt]

theorem rounds_nearestPlace : f.Rounds (num / den) (f.nearestPlace num den) := by
  obtain ⟨hle, hlt⟩ := f.units_placeBelow_bounds (num * 2 ^ f.scale / den)
  rw [nearestPlace, Nat.pow_eq]
  generalize f.placeBelow (num * 2 ^ f.scale / den) = below at hle hlt
  have hbelow : f.magnitude below ≤ num / den := by
    rw [magnitude, ← not_lt, div_lt_units_iff f num _ hd, not_lt]
    exact (Nat.le_div_iff_mul_le hd).mp hle
  have habove : num / den < f.magnitude (below + 1) :=
    (div_lt_units_iff f num _ hd).mpr ((Nat.div_lt_iff_lt_mul hd).mp hlt)
  have htwice : 2 * (num / den : ℚ) = (2 * num : ℕ) / den := by
    push_cast
    ring
  have hmiddle : f.magnitude below + f.magnitude (below + 1) =
      (f.units below + f.units (below + 1) : ℕ) / 2 ^ f.scale := by
    rw [magnitude, magnitude, ← add_div, Nat.cast_add]
  have hlt_iff := div_lt_units_iff f (2 * num) (f.units below + f.units (below + 1)) hd
  have hgt_iff := units_lt_div_iff f (2 * num) (f.units below + f.units (below + 1)) hd
  have heq_iff := div_eq_units_iff f (2 * num) (f.units below + f.units (below + 1)) hd
  rw [← htwice, ← hmiddle, Nat.mul_assoc] at hlt_iff hgt_iff heq_iff
  by_cases ht : f.top ≤ below
  · have hmin : ∀ place, below ≤ place → min place f.top = f.top := by omega
    have htop := rounds_top ((f.magnitude_strictMono.monotone ht).trans hbelow)
    split
    · rwa [hmin below le_rfl]
    · rwa [hmin (below + 1) (Nat.le_succ below)]
    · rwa [hmin _ (by split <;> omega)]
  · rw [not_le] at ht
    -- the ratio is between two neighbours, and the middle tells which of them is nearer
    split
    · next hc =>
      rw [Nat.min_eq_left ht.le]
      exact rounds_lower ht.le hbelow (.inl (hlt_iff.mpr (Nat.compare_eq_lt.mp hc)))
    · next hc =>
      rw [Nat.min_eq_left ht]
      exact rounds_upper ht habove (.inl (hgt_iff.mpr (Nat.compare_eq_gt.mp hc)))
    · next hc =>
      have heq := heq_iff.mpr (Nat.compare_eq_eq.mp hc)
      split
      · next he =>
        rw [Nat.min_eq_left ht.le]
        exact rounds_lower ht.le hbelow (.inr ⟨heq, he⟩)
      · rw [Nat.min_eq_left ht]
        exact rounds_upper ht habove (.inr ⟨heq, by omega⟩)

end Ratio

end BinaryFormat

/-! ## Decimals -/

namespace Decimal

def value (d : Decimal) : ℚ := d.coefficient * 10 ^ d.exponent

theorem value_eq_div (d : Decimal) : d.value =
    (d.coefficient * 10 ^ d.exponent.toNat : ℕ) / (10 ^ (-d.exponent).toNat : ℕ) := by
  obtain ⟨coefficient, exponent⟩ := d
  cases exponent with
  | ofNat n => simp [value]
  | negSucc n => simp [value, zpow_negSucc, div_eq_mul_inv]

variable {f : BinaryFormat} {d : Decimal}

theorem value_lt (d : Decimal) : d.value < 10 ^ (d.digits.length + d.exponent) := by
  have hlt : d.coefficient < 10 ^ d.digits.length :=
    (Nat.length_toDigits_le_iff (by decide) Nat.length_toDigits_pos).mp le_rfl
  rw [value, zpow_add₀ (by decide), zpow_natCast]
  exact mul_lt_mul_of_pos_right (by exact_mod_cast hlt) (by positivity)

theorem le_value (h : d.coefficient ≠ 0) : 10 ^ (d.digits.length + d.exponent - 1) ≤ d.value := by
  have hpos : 0 < d.digits.length := Nat.length_toDigits_pos
  have hle : 10 ^ (d.digits.length - 1) ≤ d.coefficient := by
    by_contra hlt
    rcases Nat.eq_zero_or_pos (d.digits.length - 1) with hz | hz
    · rw [hz] at hlt
      omega
    · have hlength : d.digits.length ≤ d.digits.length - 1 :=
        (Nat.length_toDigits_le_iff (by decide) hz).mpr (not_le.mp hlt)
      omega
  have he : (d.digits.length + d.exponent - 1 : Int) = (d.digits.length - 1 : ℕ) + d.exponent := by
    omega
  rw [value, he, zpow_add₀ (by decide), zpow_natCast]
  exact mul_le_mul_of_nonneg_right (by exact_mod_cast hle) (by positivity)

theorem magnitude_top_le (he : 1 ≤ f.exponentBits) : f.magnitude f.top ≤ 10 ^ reach f := by
  have hunits : f.units f.top ≤ 10 ^ reach f := by
    have hpos := Nat.two_pow_pos f.exponentBits
    rw [f.units_top he, reach, Nat.pow_eq]
    exact (Nat.pow_le_pow_left (by decide) _).trans (Nat.pow_le_pow_right (by decide) (by omega))
  have hone : (1 : ℚ) ≤ 2 ^ f.scale := one_le_pow₀ (by decide)
  rw [BinaryFormat.magnitude]
  exact (div_le_self (Nat.cast_nonneg _) hone).trans (by exact_mod_cast hunits)

theorem le_magnitude_one (f : BinaryFormat) :
    2 * (10 : ℚ) ^ (-(reach f : Int) - 1) ≤ f.magnitude 1 := by
  have hunits : 1 ≤ f.units 1 := Nat.one_le_of_lt (f.units_lt_succ 0)
  have hscale : f.scale ≤ reach f := by
    have hpow : 2 ^ (f.exponentBits - 1) ≤ 2 ^ f.exponentBits :=
      Nat.pow_le_pow_right (by decide) (Nat.sub_le _ _)
    have hpos := Nat.two_pow_pos f.exponentBits
    rw [BinaryFormat.scale, reach, Nat.pow_eq, Nat.pow_eq]
    omega
  have hpow : 2 * 2 ^ f.scale ≤ 10 ^ (reach f + 1) := by
    rw [← Nat.pow_succ']
    exact (Nat.pow_le_pow_left (by decide) _).trans (Nat.pow_le_pow_right (by decide) (by omega))
  have he : (-(reach f : Int) - 1) = -((reach f + 1 : ℕ) : Int) := by omega
  rw [he, zpow_neg, zpow_natCast, ← div_eq_mul_inv, BinaryFormat.magnitude,
    div_le_div_iff₀ (by positivity) (by positivity)]
  exact_mod_cast hpow.trans (Nat.le_mul_of_pos_left _ hunits)

theorem rounds_place (he : 1 ≤ f.exponentBits) (d : Decimal) : f.Rounds d.value (d.place f) := by
  unfold place
  dsimp only
  split
  · next hz =>
    have hv : d.value = f.magnitude 0 := by
      rw [value, hz, Nat.cast_zero, zero_mul, BinaryFormat.magnitude_zero]
    rw [hv]
    exact BinaryFormat.rounds_magnitude (Nat.zero_le _)
  · next hz =>
    split
    · next hm =>
      -- far above the format nothing is nearer than infinity, far below it nothing than zero
      have hpow : (10 : ℚ) ^ reach f ≤ 10 ^ (d.digits.length + d.exponent - 1) := by
        rw [← zpow_natCast]
        exact zpow_le_zpow_right₀ (by decide) (by omega)
      exact BinaryFormat.rounds_top ((magnitude_top_le he).trans (hpow.trans (le_value hz)))
    · split
      · next hm =>
        have hpow : (10 : ℚ) ^ (d.digits.length + d.exponent) ≤ 10 ^ (-(reach f : Int) - 1) :=
          zpow_le_zpow_right₀ (by decide) (by omega)
        have hv := d.value_lt
        have hone := le_magnitude_one f
        exact BinaryFormat.rounds_zero (by linarith)
      · rw [value_eq_div]
        exact f.rounds_nearestPlace _ (Nat.pow_pos (by decide))

theorem place_congr (he : 1 ≤ f.exponentBits) {c : Decimal} (h : c.value = d.value) :
    c.place f = d.place f := by
  have hc := rounds_place he c
  rw [h] at hc
  exact hc.unique (rounds_place he d)

/-- A decimal that is a number of the format is read as this number. -/
theorem place_of_value_eq (he : 1 ≤ f.exponentBits) {place : Nat} (hp : place ≤ f.top)
    (h : d.value = f.magnitude place) : d.place f = place := by
  have hr := rounds_place he d
  rw [h] at hr
  exact hr.unique (BinaryFormat.rounds_magnitude hp)

/-! ## Shortest decimals -/

/-- A decimal that is found on a grid is on that grid and reads back. -/
theorem of_onGrid? {tie : Tie} {place : Nat} {exponent : Int}
    (h : onGrid? f tie place exponent = some d) : d.exponent = exponent ∧ d.place f = place := by
  have hpick : ∀ nearer farther : Decimal, nearer.exponent = exponent →
      farther.exponent = exponent → (if nearer.place f = place then some nearer
      else if farther.place f = place then some farther else none) = some d →
      d.exponent = exponent ∧ d.place f = place := by
    intro nearer farther hn hf h
    split at h
    · next hread => exact Option.some.inj h ▸ ⟨hn, hread⟩
    · split at h
      · next hread => exact Option.some.inj h ▸ ⟨hf, hread⟩
      · cases h
  exact hpick _ _ (by split <;> rfl) (by split <;> rfl) h

theorem place_shortestFrom (he : 1 ≤ f.exponentBits) {tie : Tie} {place : Nat} (hp : place ≤ f.top)
    (steps : Nat) : (shortestFrom f tie place steps).place f = place := by
  induction steps with
  | zero =>
    -- the last grid holds the number itself
    have hv : (shortestFrom f tie place 0).value = f.magnitude place := by
      have hten : (10 : ℚ) ^ f.scale = 5 ^ f.scale * 2 ^ f.scale := by
        rw [← mul_pow]
        norm_num
      rw [shortestFrom, value, BinaryFormat.magnitude, zpow_neg, zpow_natCast, hten, Nat.pow_eq]
      push_cast
      field_simp
    exact place_of_value_eq he hp hv
  | succ steps ih =>
    rw [shortestFrom]
    split
    · next d hd => exact (of_onGrid? hd).2
    · exact ih

theorem place_shortest (he : 1 ≤ f.exponentBits) (tie : Tie) {place : Nat} (hp : place ≤ f.top) :
    (shortest f tie place).place f = place := by
  rw [shortest]
  split
  · next hz => rw [hz]; rfl
  · exact place_shortestFrom he hp _

theorem shortest_eq_zero (he : 1 ≤ f.exponentBits) {tie : Tie} {place : Nat} (hp : place ≤ f.top)
    (hz : (shortest f tie place).coefficient = 0) : shortest f tie place = ⟨0, 0⟩ := by
  have hread := place_shortest he tie hp
  rw [Decimal.place, if_pos hz] at hread
  rw [shortest, if_pos hread.symm]

end Decimal

end TableScope
