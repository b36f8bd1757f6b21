import Mathlib.Order.Monotone.Basic
import TableScope.Proofs.Text.Fields

/-! # Dates in order

Within a cycle of 400 years a later day is never in an earlier month (`monthOfCycle_mono`), and days of
one month are told apart by their number in it; cycles have 4800 months each. Hence days are ordered
like the years, months and numbers of their dates (`compare_ofDays`), and, while years have four
digits, like the texts of their dates (`compare_text_ofDays_append`).
-/
set_option autoImplicit false

namespace TableScope.Date

/-! ## Days of a cycle -/

theorem yearOfCycle_mono : Monotone yearOfCycle := by
  apply monotone_nat_of_le_succ
  intro day
  unfold yearOfCycle
  omega

/-- The ends of the years of a cycle; the last year has a leap day more than `yearStart` tells. -/
theorem yearOfCycle_ends : ∀ year < 400, yearOfCycle (yearStart year) = year ∧
    yearOfCycle (yearStart (year + 1) - 1) = year := by
  decide +kernel

variable {day other : Nat}

theorem yearOfCycle_lt (h : day < cycleDays) : yearOfCycle day < 400 := by
  unfold cycleDays at h
  have hlast : yearOfCycle 146096 = 399 := rfl
  have hmono := yearOfCycle_mono (show day ≤ 146096 by omega)
  omega

theorem yearStart_yearOfCycle_le (h : day < cycleDays) : yearStart (yearOfCycle day) ≤ day := by
  by_contra hlt
  have hyear := yearOfCycle_lt h
  generalize hy : yearOfCycle day = year at hlt hyear
  cases year with
  | zero => exact hlt (Nat.zero_le day)
  | succ before =>
    -- the day would not be after the last day of the year before
    have hends := (yearOfCycle_ends before (by omega)).2
    have hmono := yearOfCycle_mono (show day ≤ yearStart (before + 1) - 1 by omega)
    omega

theorem le_yearStart_yearOfCycle (h : day < cycleDays) :
    day ≤ yearStart (yearOfCycle day) + 365 := by
  by_contra hlt
  have hyear := yearOfCycle_lt h
  unfold cycleDays at h
  generalize hy : yearOfCycle day = year at hlt hyear
  have hnext : yearStart (year + 1) ≤ yearStart year + 366 := by
    unfold yearStart
    omega
  by_cases hlast : year = 399
  · subst hlast
    have hstart : yearStart 399 = 145731 := rfl
    omega
  · have hends := (yearOfCycle_ends (year + 1) (by omega)).1
    have hmono := yearOfCycle_mono (show yearStart (year + 1) ≤ day by omega)
    omega

/-- The months from the start of the cycle to the month of a day. -/
def monthOfCycle (day : Nat) : Nat :=
  12 * yearOfCycle day + monthOfYear (day - yearStart (yearOfCycle day))

/-- The first day of a month, months counted from the start of the cycle. -/
def monthOfCycleStart (month : Nat) : Nat := yearStart (month / 12) + monthStart (month % 12)

theorem monthOfYear_le (h : day < cycleDays) :
    monthOfYear (day - yearStart (yearOfCycle day)) ≤ 11 := by
  have hle := le_yearStart_yearOfCycle h
  unfold monthOfYear
  omega

theorem monthOfCycle_lt (h : day < cycleDays) : monthOfCycle day < 4800 := by
  have hyear := yearOfCycle_lt h
  have hmonth := monthOfYear_le h
  unfold monthOfCycle
  omega

theorem monthOfCycle_mono (hle : day ≤ other) (h : other < cycleDays) :
    monthOfCycle day ≤ monthOfCycle other := by
  have hday := monthOfYear_le (Nat.lt_of_le_of_lt hle h)
  have hyear := yearOfCycle_mono hle
  unfold monthOfCycle
  rcases Nat.lt_or_eq_of_le hyear with hlt | heq
  · omega
  · rw [heq]
    have hmonth : monthOfYear (day - yearStart (yearOfCycle other)) ≤
        monthOfYear (other - yearStart (yearOfCycle other)) := by
      unfold monthOfYear
      omega
    omega

theorem monthOfCycleStart_monthOfCycle (h : day < cycleDays) :
    monthOfCycleStart (monthOfCycle day) = yearStart (yearOfCycle day) +
      monthStart (monthOfYear (day - yearStart (yearOfCycle day))) := by
  have hmonth := monthOfYear_le h
  have hdiv : monthOfCycle day / 12 = yearOfCycle day := by unfold monthOfCycle; omega
  have hmod : monthOfCycle day % 12 = monthOfYear (day - yearStart (yearOfCycle day)) := by
    unfold monthOfCycle
    omega
  rw [monthOfCycleStart, hdiv, hmod]

/-- A day lies among the 31 days from the first of its month on. -/
theorem monthOfCycleStart_bounds (h : day < cycleDays) :
    monthOfCycleStart (monthOfCycle day) ≤ day ∧
      day < monthOfCycleStart (monthOfCycle day) + 31 := by
  have hstart := yearStart_yearOfCycle_le h
  rw [monthOfCycleStart_monthOfCycle h]
  unfold monthStart monthOfYear
  omega

/-! ## All days -/

/-- The months of all years up to that of a date. -/
def monthCount (date : Date) : Int := 12 * date.year + date.month

def cycleOf (days : Int) : Int := (days + epochOffset) / cycleDays

def dayOfCycle (days : Int) : Nat := ((days + epochOffset) % cycleDays).toNat

theorem days_eq (days : Int) :
    days + epochOffset = cycleDays * cycleOf days + dayOfCycle days := by
  unfold cycleOf dayOfCycle cycleDays
  omega

theorem dayOfCycle_lt (days : Int) : dayOfCycle days < cycleDays := by
  unfold dayOfCycle cycleDays
  omega

theorem ofDays_eq (days : Int) :
    let month := monthOfYear (dayOfCycle days - yearStart (yearOfCycle (dayOfCycle days)))
    (ofDays days).year =
        cycleOf days * 400 + yearOfCycle (dayOfCycle days) + (if 10 ≤ month then 1 else 0) ∧
      (ofDays days).month = (if month < 10 then month + 3 else month - 9) ∧
      (ofDays days).day =
        dayOfCycle days - yearStart (yearOfCycle (dayOfCycle days)) - monthStart month + 1 :=
  ⟨rfl, rfl, rfl⟩

theorem monthCount_ofDays (days : Int) :
    (ofDays days).monthCount = 4800 * cycleOf days + monthOfCycle (dayOfCycle days) + 3 := by
  have hmonth := monthOfYear_le (dayOfCycle_lt days)
  obtain ⟨hy, hm, -⟩ := ofDays_eq days
  rw [monthCount, hy, hm, monthOfCycle]
  split <;> split <;> omega

theorem day_ofDays (days : Int) :
    (ofDays days).day =
      dayOfCycle days - monthOfCycleStart (monthOfCycle (dayOfCycle days)) + 1 := by
  obtain ⟨-, -, hd⟩ := ofDays_eq days
  rw [hd, monthOfCycleStart_monthOfCycle (dayOfCycle_lt days), Nat.sub_sub]

theorem month_ofDays_bounds (days : Int) :
    1 ≤ (ofDays days).month ∧ (ofDays days).month ≤ 12 := by
  have hmonth := monthOfYear_le (dayOfCycle_lt days)
  obtain ⟨-, hm, -⟩ := ofDays_eq days
  rw [hm]
  split <;> omega

theorem day_ofDays_bounds (days : Int) : 1 ≤ (ofDays days).day ∧ (ofDays days).day ≤ 31 := by
  have hbounds := monthOfCycleStart_bounds (dayOfCycle_lt days)
  rw [day_ofDays]
  omega

theorem monthCount_ofDays_mono {days others : Int} (hle : days ≤ others) :
    (ofDays days).monthCount ≤ (ofDays others).monthCount := by
  have hday := days_eq days
  have hother := days_eq others
  have hlt := dayOfCycle_lt days
  have hlt' := dayOfCycle_lt others
  have hmonth := monthOfCycle_lt hlt
  unfold cycleDays at hday hother hlt hlt'
  simp only [monthCount_ofDays]
  rcases lt_trichotomy (cycleOf days) (cycleOf others) with hcycle | hcycle | hcycle
  · omega
  · have hmono := monthOfCycle_mono (show dayOfCycle days ≤ dayOfCycle others by omega)
      (dayOfCycle_lt others)
    omega
  · omega

/-- Days of one month are as far apart as their numbers. -/
theorem day_sub_day (days others : Int)
    (h : (ofDays days).monthCount = (ofDays others).monthCount) :
    days - others = (ofDays days).day - (ofDays others).day := by
  have hday := days_eq days
  have hother := days_eq others
  have hmonth := monthOfCycle_lt (dayOfCycle_lt days)
  have hmonth' := monthOfCycle_lt (dayOfCycle_lt others)
  have hbounds := monthOfCycleStart_bounds (dayOfCycle_lt days)
  have hbounds' := monthOfCycleStart_bounds (dayOfCycle_lt others)
  rw [monthCount_ofDays, monthCount_ofDays] at h
  have hcycle : cycleOf days = cycleOf others := by omega
  have hsame : monthOfCycle (dayOfCycle days) = monthOfCycle (dayOfCycle others) := by omega
  rw [day_ofDays, day_ofDays, hsame]
  rw [hsame] at hbounds
  rw [hcycle] at hday
  omega

theorem compare_ofDays (days others : Int) :
    compare days others = (compare (ofDays days).year (ofDays others).year).then
      ((compare (ofDays days).month (ofDays others).month).then
        (compare (ofDays days).day (ofDays others).day)) := by
  have hmonth := month_ofDays_bounds days
  have hmonth' := month_ofDays_bounds others
  have hle := @monthCount_ofDays_mono days others
  have hge := @monthCount_ofDays_mono others days
  have hsame := day_sub_day days others
  unfold monthCount at hle hge hsame
  apply compare_eq_then
  · omega
  · omega
  · intro hyear
    apply compare_eq_then
    · omega
    · omega
    · intro hm
      apply compare_congr <;> omega

/-! ## Texts -/

/-- The year is written in four digits. -/
def HasShortYear (date : Date) : Prop := 0 ≤ date.year ∧ date.year ≤ 9999

theorem yearText_of_short {date : Date} (h : date.HasShortYear) :
    yearText date.year = Nat.padded 4 date.year.toNat := by
  have hyear : (0 ≤ date.year && date.year ≤ 9999) = true := by
    rw [Bool.and_eq_true, decide_eq_true_eq, decide_eq_true_eq]
    exact h
  rw [yearText, if_pos hyear]

/-- Texts that start with dates are ordered like the days first. -/
theorem compare_text_ofDays_append {days others : Int} (h : (ofDays days).HasShortYear)
    (h' : (ofDays others).HasShortYear) (s t : List Char) :
    Text.compare ((ofDays days).text ++ s) ((ofDays others).text ++ t) =
      (compare days others).then (Text.compare s t) := by
  have hmonth := month_ofDays_bounds days
  have hmonth' := month_ofDays_bounds others
  have hday := day_ofDays_bounds days
  have hday' := day_ofDays_bounds others
  have hyear : ∀ {date : Date}, date.HasShortYear → date.year.toNat < 10 ^ 4 := by
    intro date h
    unfold HasShortYear at h
    omega
  rw [text, text, yearText_of_short h, yearText_of_short h', compare_ofDays days others]
  simp only [List.append_assoc, List.cons_append]
  rw [Nat.compare_padded_append (by decide) (hyear h) (hyear h'), Text.compare_cons_self,
    Nat.compare_padded_append (by decide) (by omega) (by omega), Text.compare_cons_self,
    Nat.compare_padded_append (by decide) (by omega) (by omega), Int.compare_toNat h.1 h'.1,
    Ordering.then_assoc, Ordering.then_assoc]

end TableScope.Date
