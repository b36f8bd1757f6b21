import Mathlib.Data.Int.ConditionallyCompleteOrder
import Mathlib.Order.Compare
import Mathlib.Order.Interval.Set.Defs
import Mathlib.Order.WithBot
import TableScope.Proofs.Number.Rounding

/-! # The order of numbers

Floating-point numbers stand on a line: their values between the two infinities, and "not a number" above
(`FloatValue.onLine`). Comparing two of them is comparing where they stand (`Binary.compare_eq`). Rounding
keeps the order (`Rounds.mono`), so integers that are rounded to floating-point numbers do not change
places (`Binary.rank_ofInt_mono`), though neighbours may fall together; those that are representable do
not move at all (`Binary.onLine_ofInt`).
-/
set_option autoImplicit false

namespace TableScope

/-! ## The line -/

/-- The rationals between two infinities, and one more above them. -/
abbrev NumberLine := WithTop (WithBot (WithTop ℚ))

namespace NumberLine

def ofRat (q : ℚ) : NumberLine := (((q : WithTop ℚ) : WithBot (WithTop ℚ)) : NumberLine)

def infinity (negative : Bool) : NumberLine :=
  ((if negative then ⊥ else (⊤ : WithTop ℚ) : WithBot (WithTop ℚ)) : NumberLine)

theorem ofRat_strictMono : StrictMono ofRat := fun _ _ h =>
  WithTop.coe_lt_coe.mpr (WithBot.coe_lt_coe.mpr (WithTop.coe_lt_coe.mpr h))

theorem infinity_lt_ofRat (q : ℚ) : infinity true < ofRat q :=
  WithTop.coe_lt_coe.mpr (WithBot.bot_lt_coe _)

theorem ofRat_lt_infinity (q : ℚ) : ofRat q < infinity false :=
  WithTop.coe_lt_coe.mpr (WithBot.coe_lt_coe.mpr (WithTop.coe_lt_top q))

theorem infinity_lt_infinity : infinity true < infinity false :=
  (infinity_lt_ofRat 0).trans (ofRat_lt_infinity 0)

end NumberLine

/-- Both zeros stand at 0, and "not a number" above everything. -/
def FloatValue.onLine : FloatValue → NumberLine
  | nan => ⊤
  | infinite negative => .infinity negative
  | finite negative magnitude => .ofRat (if negative then -magnitude else magnitude)

/-! ## Ranks -/

namespace BinaryFormat

variable (f : BinaryFormat)

/-- The number of a rank, which is a place with a sign. -/
def signed (rank : ℤ) : ℚ := if rank < 0 then -f.magnitude rank.natAbs else f.magnitude rank.natAbs

theorem magnitude_pos {place : Nat} (h : 0 < place) : 0 < f.magnitude place :=
  f.magnitude_zero ▸ f.magnitude_strictMono h

theorem signed_strictMono : StrictMono f.signed := by
  intro r s h
  have hzero := f.magnitude_zero
  unfold signed
  split
  · next hr =>
    split
    · have hm := f.magnitude_strictMono (show s.natAbs < r.natAbs by omega)
      linarith
    · have hpos := f.magnitude_pos (show 0 < r.natAbs by omega)
      have hle := f.magnitude_strictMono.monotone (Nat.zero_le s.natAbs)
      linarith
  · next hr =>
    rw [if_neg (by omega)]
    exact f.magnitude_strictMono (by omega)

theorem signed_number (negative : Bool) (place : Nat) :
    f.signed (if negative then -(place : ℤ) else place) =
      if negative then -f.magnitude place else f.magnitude place := by
  have hzero := f.magnitude_zero
  unfold signed
  cases negative with
  | false => simp
  | true =>
    by_cases hp : place = 0
    · simp [hp, hzero]
    · rw [if_pos rfl, if_pos (by omega), Int.natAbs_neg, Int.natAbs_natCast, if_pos rfl]

/-- Where a rank is on the line. -/
def lineAt (rank : ℤ) : NumberLine :=
  if rank = -f.top then .infinity true
  else if rank < f.top then .ofRat (f.signed rank)
  else if rank = f.top then .infinity false
  else ⊤

theorem lineAt_strictMonoOn :
    StrictMonoOn f.lineAt (Set.Icc (-f.top : ℤ) (f.top + 1)) := by
  rintro r ⟨hlow, -⟩ s ⟨-, hhigh⟩ h
  have hs : s ≠ -f.top := by omega
  simp only [lineAt, if_neg hs]
  by_cases hr : r = -f.top
  · rw [if_pos hr]
    split
    · exact NumberLine.infinity_lt_ofRat _
    · split
      · exact NumberLine.infinity_lt_infinity
      · exact WithTop.coe_lt_top _
  · rw [if_neg hr]
    by_cases hfinite : r < f.top
    · rw [if_pos hfinite]
      split
      · exact NumberLine.ofRat_strictMono (f.signed_strictMono h)
      · split
        · exact NumberLine.ofRat_lt_infinity _
        · exact WithTop.coe_lt_top _
    · rw [if_neg hfinite, if_pos (by omega), if_neg (by omega), if_neg (by omega)]
      exact WithTop.coe_lt_top _

theorem top_pos {f : BinaryFormat} (he : 1 ≤ f.exponentBits) : 0 < f.top := by
  have h2 : 2 ^ 1 ≤ 2 ^ f.exponentBits := Nat.pow_le_pow_right (by decide) he
  exact Nat.mul_pos (by rw [Nat.pow_eq]; omega) (Nat.two_pow_pos _)

end BinaryFormat

namespace Binary

variable {f : BinaryFormat}

theorem rank_mem (x : Binary f) : x.rank ∈ Set.Icc (-f.top : ℤ) (f.top + 1) := by
  cases x with
  | nan => exact ⟨by rw [rank]; omega, le_rfl⟩
  | number negative place =>
    have hp := place.isLt
    rw [rank]
    split <;> exact ⟨by omega, by omega⟩

theorem onLine_value (ht : 0 < f.top) (x : Binary f) : x.value.onLine = f.lineAt x.rank := by
  cases x with
  | nan =>
    rw [rank, BinaryFormat.lineAt, if_neg (by omega), if_neg (by omega), if_neg (by omega)]
    rfl
  | number negative place =>
    have hp := place.isLt
    have hsigned := f.signed_number negative place
    rw [value, rank, BinaryFormat.lineAt]
    by_cases htop : place.val = f.top
    · rw [if_pos htop, htop]
      cases negative with
      | true => rw [if_pos rfl, if_pos rfl]; rfl
      | false =>
        rw [if_neg Bool.false_ne_true, if_neg (by omega), if_neg (by omega), if_pos rfl]
        rfl
    · have hlow : (if negative then -(place.val : ℤ) else place.val) ≠ -f.top := by split <;> omega
      have hhigh : (if negative then -(place.val : ℤ) else place.val) < f.top := by split <;> omega
      rw [if_neg htop, if_neg hlow, if_pos hhigh, hsigned]
      rfl

/-- Numbers are compared as they stand on the line. -/
theorem compare_eq (he : 1 ≤ f.exponentBits) (x y : Binary f) :
    x.compare y = Ord.compare x.value.onLine y.value.onLine := by
  have ht := BinaryFormat.top_pos he
  rw [onLine_value ht, onLine_value ht, compare, ← cmp_eq_compare, ← cmp_eq_compare]
  exact (f.lineAt_strictMonoOn.cmp_map_eq x.rank_mem y.rank_mem).symm

theorem onLine_le_iff (he : 1 ≤ f.exponentBits) {x y : Binary f} :
    x.value.onLine ≤ y.value.onLine ↔ x.rank ≤ y.rank := by
  have ht := BinaryFormat.top_pos he
  rw [onLine_value ht, onLine_value ht]
  exact f.lineAt_strictMonoOn.le_iff_le x.rank_mem y.rank_mem

end Binary

/-! ## Rounding -/

namespace BinaryFormat

variable {f : BinaryFormat} {q r : ℚ} {place other n : Nat}

/-- Rounding keeps the order: were two numbers to change places, both would be the middle. -/
theorem Rounds.mono (h : f.Rounds q place) (ho : f.Rounds r other) (hqr : q ≤ r) :
    place ≤ other := by
  by_contra hlt
  obtain ⟨hplace, hbelow, -⟩ := rounds_iff.mp h
  obtain ⟨-, -, habove⟩ := rounds_iff.mp ho
  have hq : f.magnitude other + f.magnitude place ≤ 2 * q := by
    rcases hbelow other (by omega) with hl | ⟨he, -⟩
    · exact hl.le
    · exact he.ge
  have hr : 2 * r ≤ f.magnitude other + f.magnitude place := by
    rcases habove place hplace (by omega) with hl | ⟨he, -⟩
    · exact hl.le
    · exact he.le
  have heq : q = r := by linarith
  exact hlt (h.unique (heq ▸ ho)).le

theorem Representable.exists_magnitude (h : f.Representable n) : ∃ place, f.magnitude place = n :=
  ⟨f.placeBelow (n * 2 ^ f.scale), magnitude_eq_natCast (h.mul_pow f.scale).units_placeBelow⟩

/-- What is rounded to less than a representable number is less than it, if it is not out of range. -/
theorem Rounds.lt_of_magnitude_lt (h : f.Rounds q place) (hp : place ≠ f.top)
    (hn : f.Representable n) (hlt : f.magnitude place < n) : q < n := by
  obtain ⟨other, hother⟩ := hn.exists_magnitude
  rw [← hother] at hlt ⊢
  by_contra hle
  rw [not_lt] at hle
  have hplace := f.magnitude_strictMono.lt_iff_lt.mp hlt
  by_cases htop : other ≤ f.top
  · exact absurd ((rounds_magnitude htop).mono h hle) (not_le.mpr hplace)
  · have habove := f.magnitude_strictMono.monotone (not_le.mp htop).le
    exact hp (h.unique (rounds_top (habove.trans hle)))

/-- A representable number in range is rounded to itself. -/
theorem Rounds.magnitude_eq (h : f.Rounds n place) (hn : f.Representable n)
    (hlt : (n : ℚ) < f.magnitude f.top) : place ≠ f.top ∧ f.magnitude place = n := by
  obtain ⟨other, hother⟩ := hn.exists_magnitude
  rw [← hother] at h hlt
  have htop := f.magnitude_strictMono.lt_iff_lt.mp hlt
  obtain rfl := h.unique (rounds_magnitude htop.le)
  exact ⟨htop.ne, hother⟩

theorem representable_of_le (h : n ≤ 2 * 2 ^ f.fractionBits) : f.Representable n := by
  rcases Nat.lt_or_eq_of_le h with hlt | rfl
  · exact ⟨n, 0, hlt, by rw [Nat.pow_zero, Nat.mul_one]⟩
  · have hp := Nat.two_pow_pos f.fractionBits
    exact ⟨1, f.fractionBits + 1, by omega, by rw [Nat.one_mul, Nat.pow_succ']⟩

theorem magnitude_top (he : 2 ≤ f.exponentBits) :
    f.magnitude f.top = 2 ^ 2 ^ (f.exponentBits - 1) := by
  have hdouble : 2 * 2 ^ (f.exponentBits - 1) = 2 ^ f.exponentBits := by
    rw [← Nat.pow_succ', Nat.succ_eq_add_one, Nat.sub_add_cancel (by omega)]
  have hl : 2 ^ 1 ≤ 2 ^ (f.exponentBits - 1) := Nat.pow_le_pow_right (by decide) (by omega)
  have hunits : f.units f.top = 2 ^ 2 ^ (f.exponentBits - 1) * 2 ^ f.scale := by
    rw [units_top f (by omega), ← Nat.pow_add, scale, Nat.pow_eq]
    congr 1
    omega
  exact_mod_cast magnitude_eq_natCast hunits

end BinaryFormat

namespace Binary

variable {f : BinaryFormat} {i j : ℤ} {x : Binary f}

/-- The number is the nearest to an integer, and of two the even one. -/
inductive NearestTo : ℤ → Binary f → Prop
  | intro (i : ℤ) (place : Fin (f.top + 1)) (h : f.Rounds (i.natAbs : ℚ) place) :
    NearestTo i (.number (decide (i < 0)) place)

theorem rounds_ofInt (f : BinaryFormat) (i : ℤ) :
    f.Rounds (i.natAbs : ℚ) (f.nearestPlace i.natAbs 1) := by
  have h := f.rounds_nearestPlace i.natAbs Nat.one_pos
  rwa [Nat.cast_one, div_one] at h

theorem nearestTo_iff : NearestTo i x ↔ x = ofInt i := by
  constructor
  · rintro ⟨place, h⟩
    rw [ofInt, ofRatio, number.injEq, Fin.ext_iff]
    exact ⟨rfl, h.unique (rounds_ofInt f i)⟩
  · rintro rfl
    exact .intro i _ (rounds_ofInt f i)

theorem rank_ofInt_mono (h : i ≤ j) : (ofInt i : Binary f).rank ≤ (ofInt j : Binary f).rank := by
  have hi := rounds_ofInt f i
  have hj := rounds_ofInt f j
  simp only [ofInt, ofRatio, rank, decide_eq_true_eq]
  split
  · split
    · have hm := hj.mono hi (by exact_mod_cast (show j.natAbs ≤ i.natAbs by omega))
      omega
    · omega
  · rw [if_neg (by omega)]
    have hm := hi.mono hj (by exact_mod_cast (show i.natAbs ≤ j.natAbs by omega))
    omega

/-- An integer that is representable stands where it is. -/
theorem onLine_ofInt (hn : f.Representable i.natAbs) (hi : (i.natAbs : ℚ) < f.magnitude f.top) :
    (ofInt i : Binary f).value.onLine = .ofRat i := by
  obtain ⟨htop, hm⟩ := (rounds_ofInt f i).magnitude_eq hn hi
  rw [BinaryFormat.magnitude] at hm
  simp only [ofInt, ofRatio, value, if_neg htop, FloatValue.onLine, hm, decide_eq_true_eq]
  congr 1
  split
  · next hneg => rw [Nat.cast_natAbs, abs_of_neg hneg, Int.cast_neg, neg_neg]
  · next hpos => rw [Nat.cast_natAbs, abs_of_nonneg (not_lt.mp hpos)]

end Binary

end TableScope
