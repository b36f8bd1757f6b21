import Mathlib.Data.Rat.Cast.Order
import Mathlib.Order.Monotone.Basic
import Mathlib.Tactic.Ring
import TableScope.Number.Binary

/-! # Exact floating-point numbers

What a floating-point number stands for does not depend on its format (`Binary.value`). The numbers of a
format are the multiples of powers of two by short factors (`Representable`), rounding leaves these as
they are (`Representable.nearestPlace_eq`), and so a number taken to a wider format keeps its value
(`Binary.value_round`).
-/
set_option autoImplicit false

namespace TableScope

namespace BinaryFormat

variable (f : BinaryFormat)

/-! ## Units -/

theorem units_of_lt {place : Nat} (h : place < 2 ^ f.fractionBits) : f.units place = place := by
  rw [units, Nat.pow_eq, Nat.div_eq_of_lt h, if_pos rfl, Nat.mod_eq_of_lt h]

/-- From `2 ^ fractionBits` on, a place spells a factor with its leading bit and a power of two. -/
theorem units_add_mul {factor : Nat} (shift : Nat) (hl : 2 ^ f.fractionBits ≤ factor)
    (hu : factor ≤ 2 * 2 ^ f.fractionBits) :
    f.units (shift * 2 ^ f.fractionBits + factor) = factor * 2 ^ shift := by
  have hp : 0 < 2 ^ f.fractionBits := Nat.two_pow_pos _
  have hspelled : ∀ shift rest, rest < 2 ^ f.fractionBits →
      f.units (shift * 2 ^ f.fractionBits + (2 ^ f.fractionBits + rest)) =
        (2 ^ f.fractionBits + rest) * 2 ^ shift := by
    intro shift rest hr
    have he : shift * 2 ^ f.fractionBits + (2 ^ f.fractionBits + rest) =
        rest + (shift + 1) * 2 ^ f.fractionBits := by ring
    have hd : (rest + (shift + 1) * 2 ^ f.fractionBits) / 2 ^ f.fractionBits = shift + 1 := by
      rw [Nat.add_mul_div_right _ _ hp, Nat.div_eq_of_lt hr, Nat.zero_add]
    have hm : (rest + (shift + 1) * 2 ^ f.fractionBits) % 2 ^ f.fractionBits = rest := by
      rw [Nat.add_mul_mod_self_right, Nat.mod_eq_of_lt hr]
    rw [units, Nat.pow_eq, he, hd, hm, if_neg (Nat.succ_ne_zero shift), Nat.pow_eq,
      Nat.add_sub_cancel]
  by_cases hfull : factor = 2 * 2 ^ f.fractionBits
  · -- after a factor of ones the next place begins with the next power of two
    have he : shift * 2 ^ f.fractionBits + 2 * 2 ^ f.fractionBits =
        (shift + 1) * 2 ^ f.fractionBits + (2 ^ f.fractionBits + 0) := by ring
    rw [hfull, he, hspelled (shift + 1) 0 hp]
    ring
  · obtain ⟨rest, rfl⟩ := Nat.exists_eq_add_of_le hl
    exact hspelled shift rest (by omega)

/-- A place below the leading bits, or the factor and the power of two that it spells. -/
theorem place_cases (place : Nat) :
    place < 2 ^ f.fractionBits ∨ ∃ shift factor, 2 ^ f.fractionBits ≤ factor ∧
      factor < 2 * 2 ^ f.fractionBits ∧ place = shift * 2 ^ f.fractionBits + factor := by
  have hp : 0 < 2 ^ f.fractionBits := Nat.two_pow_pos _
  by_cases h : place < 2 ^ f.fractionBits
  · exact .inl h
  · have hd := Nat.div_add_mod place (2 ^ f.fractionBits)
    have hm := Nat.mod_lt place hp
    obtain ⟨shift, hs⟩ := Nat.exists_eq_add_of_le' (Nat.div_pos (Nat.le_of_not_lt h) hp)
    rw [hs, Nat.mul_add, Nat.mul_one, Nat.mul_comm] at hd
    exact .inr ⟨shift, 2 ^ f.fractionBits + place % 2 ^ f.fractionBits, by omega, by omega, by omega⟩

theorem units_lt_succ (place : Nat) : f.units place < f.units (place + 1) := by
  rcases f.place_cases place with h | ⟨shift, factor, hl, hu, rfl⟩
  · rw [f.units_of_lt h]
    by_cases hn : place + 1 < 2 ^ f.fractionBits
    · rw [f.units_of_lt hn]
      exact Nat.lt_succ_self place
    · have he : place + 1 = 0 * 2 ^ f.fractionBits + 2 ^ f.fractionBits := by omega
      rw [he, f.units_add_mul 0 (Nat.le_refl _) (by omega)]
      omega
  · rw [f.units_add_mul shift hl hu.le, Nat.add_assoc, f.units_add_mul shift (by omega) hu]
    exact Nat.mul_lt_mul_of_pos_right (Nat.lt_succ_self factor) (Nat.two_pow_pos shift)

theorem units_strictMono : StrictMono f.units := strictMono_nat_of_lt_succ f.units_lt_succ

/-- Infinity stands where the next power of two would. -/
theorem units_top (he : 1 ≤ f.exponentBits) :
    f.units f.top = 2 ^ (f.fractionBits + (2 ^ f.exponentBits - 2)) := by
  have h2 : 2 ^ 1 ≤ 2 ^ f.exponentBits := Nat.pow_le_pow_right (by decide) he
  have ht : f.top = (2 ^ f.exponentBits - 2) * 2 ^ f.fractionBits + 2 ^ f.fractionBits := by
    rw [top, Nat.pow_eq, Nat.pow_eq, ← Nat.succ_mul]
    congr 1
    omega
  rw [ht, f.units_add_mul _ (Nat.le_refl _) (Nat.le_mul_of_pos_left _ Nat.two_pos),
    Nat.pow_add]

/-! ## Representable numbers -/

/-- The factor has at most one bit more than the fraction field. -/
def Representable (n : Nat) : Prop :=
  ∃ factor shift, factor < 2 * 2 ^ f.fractionBits ∧ n = factor * 2 ^ shift

theorem representable_units (place : Nat) : f.Representable (f.units place) := by
  rcases f.place_cases place with h | ⟨shift, factor, hl, hu, rfl⟩
  · exact ⟨place, 0, by omega, by rw [f.units_of_lt h]; omega⟩
  · exact ⟨factor, shift, hu, f.units_add_mul shift hl hu.le⟩

variable {f} {g : BinaryFormat} {n : Nat}

theorem Representable.mul_pow (h : f.Representable n) (k : Nat) : f.Representable (n * 2 ^ k) := by
  obtain ⟨factor, shift, hu, rfl⟩ := h
  exact ⟨factor, shift + k, hu, by rw [Nat.pow_add, Nat.mul_assoc]⟩

theorem Representable.mono (h : f.Representable n) (hf : f.fractionBits ≤ g.fractionBits) :
    g.Representable n := by
  obtain ⟨factor, shift, hu, rfl⟩ := h
  have hp : 2 ^ f.fractionBits ≤ 2 ^ g.fractionBits := Nat.pow_le_pow_right (by decide) hf
  exact ⟨factor, shift, by omega, rfl⟩

/-- The power of two that brings the leading bit of a number to the front. -/
theorem exists_shift (f : BinaryFormat) (h : 2 ^ f.fractionBits ≤ n) :
    ∃ shift, n.log2 = shift + f.fractionBits ∧ 2 ^ f.fractionBits * 2 ^ shift ≤ n ∧
      n < 2 * 2 ^ f.fractionBits * 2 ^ shift := by
  have hz : n ≠ 0 := by
    have := Nat.two_pow_pos f.fractionBits
    omega
  obtain ⟨shift, hs⟩ := Nat.exists_eq_add_of_le' ((Nat.le_log2 hz).mpr h)
  have hl := Nat.log2_self_le hz
  have hu := Nat.lt_log2_self (n := n)
  rw [hs, Nat.add_comm, Nat.pow_add] at hl
  rw [hs, Nat.pow_succ, Nat.add_comm shift, Nat.pow_add] at hu
  refine ⟨shift, hs, hl, ?_⟩
  rw [Nat.mul_comm 2, Nat.mul_right_comm]
  exact hu

theorem Representable.dvd (h : f.Representable n) {shift : Nat}
    (hl : 2 ^ f.fractionBits * 2 ^ shift ≤ n) : 2 ^ shift ∣ n := by
  obtain ⟨factor, power, hu, rfl⟩ := h
  apply Nat.dvd_mul_left_of_dvd
  apply Nat.pow_dvd_pow
  by_contra hlt
  -- a power of two beyond the given one would leave the factor more bits than it has
  have hle : 2 ^ (power + 1) ≤ 2 ^ shift :=
    Nat.pow_le_pow_right Nat.two_pos (Nat.lt_of_not_le hlt)
  rw [Nat.pow_succ] at hle
  have h1 : 2 ^ f.fractionBits * (2 ^ power * 2) ≤ factor * 2 ^ power :=
    Nat.le_trans (Nat.mul_le_mul_left _ hle) hl
  have h2 : factor * 2 ^ power < 2 * 2 ^ f.fractionBits * 2 ^ power :=
    Nat.mul_lt_mul_of_pos_right hu (Nat.two_pow_pos power)
  have h3 : 2 ^ f.fractionBits * (2 ^ power * 2) = 2 * 2 ^ f.fractionBits * 2 ^ power := by ring
  omega

/-- Below the leading bits a number is its own place; from there on its first bits are the factor. -/
theorem placeBelow_cases (f : BinaryFormat) (n : Nat) :
    n < 2 ^ f.fractionBits ∧ f.placeBelow n = n ∨
      ∃ shift, 2 ^ f.fractionBits * 2 ^ shift ≤ n ∧ n < 2 * 2 ^ f.fractionBits * 2 ^ shift ∧
        f.placeBelow n = shift * 2 ^ f.fractionBits + n / 2 ^ shift := by
  rw [placeBelow, Nat.pow_eq, Nat.pow_eq]
  by_cases hn : n < 2 ^ f.fractionBits
  · have hs : n.log2 - f.fractionBits = 0 := by
      by_cases hz : n = 0
      · rw [hz, Nat.log2_zero, Nat.zero_sub]
      · have := (Nat.log2_lt hz).mpr hn
        omega
    exact .inl ⟨hn, by rw [hs, Nat.pow_zero, Nat.div_one, Nat.zero_mul, Nat.zero_add]⟩
  · obtain ⟨shift, hs, hl, hu⟩ := f.exists_shift (Nat.le_of_not_lt hn)
    exact .inr ⟨shift, hl, hu, by rw [hs, Nat.add_sub_cancel]⟩

theorem units_placeBelow_bounds (f : BinaryFormat) (n : Nat) :
    f.units (f.placeBelow n) ≤ n ∧ n < f.units (f.placeBelow n + 1) := by
  rcases f.placeBelow_cases n with ⟨hn, hplace⟩ | ⟨shift, hl, hu, hplace⟩
  · have hunits := f.units_of_lt hn
    have hlt := f.units_lt_succ n
    rw [hplace]
    omega
  · have hp := Nat.two_pow_pos shift
    have hfirst : 2 ^ f.fractionBits ≤ n / 2 ^ shift := (Nat.le_div_iff_mul_le hp).mpr hl
    have hlast : n / 2 ^ shift < 2 * 2 ^ f.fractionBits := (Nat.div_lt_iff_lt_mul hp).mpr hu
    rw [hplace, Nat.add_assoc, f.units_add_mul shift hfirst hlast.le,
      f.units_add_mul shift (by omega) hlast]
    exact ⟨Nat.div_mul_le_self n (2 ^ shift), (Nat.div_lt_iff_lt_mul hp).mp (Nat.lt_succ_self _)⟩

theorem Representable.units_placeBelow (h : f.Representable n) : f.units (f.placeBelow n) = n := by
  rcases f.placeBelow_cases n with ⟨hn, hplace⟩ | ⟨shift, hl, hu, hplace⟩
  · rw [hplace, f.units_of_lt hn]
  · obtain ⟨factor, rfl⟩ := h.dvd hl
    have hp := Nat.two_pow_pos shift
    rw [Nat.mul_comm (2 ^ shift)] at hl hu hplace ⊢
    rw [hplace, Nat.mul_div_cancel _ hp]
    exact f.units_add_mul shift (Nat.le_of_mul_le_mul_right hl hp)
      (Nat.lt_of_mul_lt_mul_right hu).le

/-- Rounding leaves a representable number as it is, up to infinity. -/
theorem Representable.nearestPlace_eq (h : f.Representable n) {num den : Nat} (hd : 0 < den)
    (he : num * 2 ^ f.scale = n * den) : f.nearestPlace num den = min (f.placeBelow n) f.top := by
  have hu := h.units_placeBelow
  have hlt : n < f.units (f.placeBelow n + 1) := by
    have := f.units_lt_succ (f.placeBelow n)
    rwa [hu] at this
  have hc : Ord.compare (2 * (n * den)) ((n + f.units (f.placeBelow n + 1)) * den) = .lt := by
    rw [Nat.compare_eq_lt, ← Nat.mul_assoc]
    exact Nat.mul_lt_mul_of_pos_right (by omega) hd
  rw [nearestPlace, Nat.pow_eq, he, Nat.mul_div_cancel _ hd]
  simp only [hu, hc]

/-! ## Wider formats -/

/-- Every number of the format is one of the wider format. -/
structure Within (f g : BinaryFormat) : Prop where
  fractionBits : f.fractionBits ≤ g.fractionBits
  exponentBits : f.exponentBits ≤ g.exponentBits
  two_le : 2 ≤ f.exponentBits

namespace Within

variable (h : f.Within g)

include h

theorem two_pow_le : 2 * 2 ^ (f.exponentBits - 1) = 2 ^ f.exponentBits ∧
    2 * 2 ^ (g.exponentBits - 1) = 2 ^ g.exponentBits ∧ 2 ≤ 2 ^ (f.exponentBits - 1) ∧
    2 ^ (f.exponentBits - 1) ≤ 2 ^ (g.exponentBits - 1) := by
  have htwo := h.two_le
  have hexp := h.exponentBits
  have hdouble : ∀ bits, 2 ≤ bits → 2 * 2 ^ (bits - 1) = 2 ^ bits := by
    intro bits hb
    rw [← Nat.pow_succ', Nat.succ_eq_add_one, Nat.sub_add_cancel (by omega)]
  have hl : 2 ^ 1 ≤ 2 ^ (f.exponentBits - 1) := Nat.pow_le_pow_right Nat.two_pos (by omega)
  exact ⟨hdouble _ htwo, hdouble _ (by omega), hl, Nat.pow_le_pow_right Nat.two_pos (by omega)⟩

theorem scale_le : f.scale ≤ g.scale := by
  obtain ⟨-, -, hl, hle⟩ := h.two_pow_le
  have hf := h.fractionBits
  rw [scale, scale, Nat.pow_eq, Nat.pow_eq]
  omega

theorem units_top_le : f.units f.top * 2 ^ (g.scale - f.scale) ≤ g.units g.top := by
  obtain ⟨hf, hg, hl, hle⟩ := h.two_pow_le
  have hfraction := h.fractionBits
  have htwo := h.two_le
  have hexp := h.exponentBits
  rw [units_top f (by omega), units_top g (by omega), ← Nat.pow_add]
  apply Nat.pow_le_pow_right (by decide)
  rw [scale, scale, Nat.pow_eq, Nat.pow_eq]
  omega

end Within

end BinaryFormat

/-! ## Values -/

/-- What a floating-point number stands for. Zeros have a sign. -/
inductive FloatValue
  | nan
  | infinite (negative : Bool)
  | finite (negative : Bool) (magnitude : ℚ)
deriving DecidableEq

namespace Binary

variable {f g : BinaryFormat}

def value : Binary f → FloatValue
  | .nan => .nan
  | .number negative place =>
    if place.val = f.top then .infinite negative
    else .finite negative (f.units place / 2 ^ f.scale)

/-- A number keeps its value in a wider format. -/
theorem value_round (h : f.Within g) (x : Binary f) : (round g x).value = x.value := by
  cases x with
  | nan => rfl
  | number negative place =>
    rw [round, value]
    by_cases ht : place.val = f.top
    · rw [if_pos ht, if_pos ht, infinity, value, if_pos rfl]
    · rw [if_neg ht, if_neg ht, Nat.pow_eq, ofRatio, value]
      generalize hn : f.units place * 2 ^ (g.scale - f.scale) = n
      have hrep : g.Representable n :=
        hn ▸ ((f.representable_units place).mul_pow _).mono h.fractionBits
      have hscale : f.units place * 2 ^ g.scale = n * 2 ^ f.scale := by
        rw [← hn, Nat.mul_assoc, ← Nat.pow_add, Nat.sub_add_cancel h.scale_le]
      have hfinite : g.placeBelow n < g.top := by
        rw [← g.units_strictMono.lt_iff_lt, hrep.units_placeBelow, ← hn]
        have hlt : f.units place < f.units f.top := f.units_strictMono (by omega)
        exact Nat.lt_of_lt_of_le (Nat.mul_lt_mul_of_pos_right hlt (Nat.two_pow_pos _)) h.units_top_le
      have hplace : g.nearestPlace (f.units place) (2 ^ f.scale) = g.placeBelow n := by
        rw [hrep.nearestPlace_eq (Nat.two_pow_pos _) hscale, Nat.min_eq_left hfinite.le]
      simp only [hplace, if_neg hfinite.ne, hrep.units_placeBelow]
      congr 1
      rw [div_eq_div_iff (pow_ne_zero _ two_ne_zero) (pow_ne_zero _ two_ne_zero)]
      exact_mod_cast hscale.symm

end Binary

end TableScope
