import TableScope.Calendar.Time
import TableScope.Proofs.Calendar.Dates

/-! # Times and instants in order

Times of day and local instants are ordered like their texts. The part up to the seconds is of fixed
width; a fraction is written without the zeros at its end, and this keeps its place in the order
(`TimeOfDay.compare_fractionText`). A zone after the texts leaves the order alone if it begins with a
sign, which is below the point and the digits (`DateTime.compare_text_below`). A `Z` after them is above
both, and turns the order round where one fraction is a start of the other (`DateTime.compare_text_above`).
-/
set_option autoImplicit false

namespace TableScope

theorem secondsPerDay_pos : (0 : Int) < secondsPerDay := by decide

/-! ## Counts of units -/

namespace TimeUnit

variable (unit : TimeUnit)

theorem perSecond_pos : (0 : Int) < unit.perSecond := by
  cases unit <;> decide

/-- The nanoseconds of a count that make no whole second. -/
def fraction (count : Int) : Nat := (count % unit.perSecond).toNat * unit.nanoseconds

theorem fraction_lt (count : Int) : unit.fraction count < 10 ^ 9 := by
  unfold fraction
  cases unit <;> simp only [perSecond, nanoseconds] <;> omega

/-- A count is ordered by its whole seconds, and then by the rest. -/
theorem compare_count (count other : Int) :
    compare count other = (compare (count / unit.perSecond) (other / unit.perSecond)).then
      (compare (unit.fraction count) (unit.fraction other)) := by
  rw [Int.compare_ediv_emod unit.perSecond_pos]
  congr 1
  unfold fraction
  cases unit <;> simp only [perSecond, nanoseconds] <;> apply Eq.symm <;> apply compare_congr <;> omega

end TimeUnit

/-! ## Times of day -/

namespace TimeOfDay

/-- Hours, minutes and seconds. -/
def clockText (seconds : Nat) : List Char :=
  Nat.padded 2 (seconds / 3600) ++ ':' :: (Nat.padded 2 (seconds / 60 % 60) ++ ':' ::
    Nat.padded 2 (seconds % 60))

theorem text_eq (time : TimeOfDay) :
    time.text = clockText time.seconds ++ fractionText time.nanoseconds := by
  simp only [text, clockText, List.append_assoc, List.cons_append]

theorem compare_clockText_append {a b : Nat} (ha : a < secondsPerDay) (hb : b < secondsPerDay)
    (s t : List Char) :
    Text.compare (clockText a ++ s) (clockText b ++ t) =
      (compare a b).then (Text.compare s t) := by
  unfold secondsPerDay at ha hb
  have hsplit : compare a b = (compare (a / 3600) (b / 3600)).then
      ((compare (a / 60 % 60) (b / 60 % 60)).then (compare (a % 60) (b % 60))) := by
    rw [Nat.compare_div_mod 60 a b, Nat.compare_div_mod 60 (a / 60) (b / 60), Nat.div_div_eq_div_mul,
      Nat.div_div_eq_div_mul, Ordering.then_assoc]
  simp only [clockText, List.append_assoc, List.cons_append]
  rw [Nat.compare_padded_append (by decide) (by omega) (by omega), Text.compare_cons_self,
    Nat.compare_padded_append (by decide) (by omega) (by omega), Text.compare_cons_self,
    Nat.compare_padded_append (by decide) (by omega) (by omega), hsplit, Ordering.then_assoc,
    Ordering.then_assoc]

/-- A fraction is written as a number without some of the zeros at its end. -/
theorem exists_fractionText {n : Nat} (hn : n ≠ 0) (hlt : n < 10 ^ 9) :
    ∃ width zeros m, 0 < width ∧ width + zeros = 9 ∧ m < 10 ^ width ∧ n = m * 10 ^ zeros ∧
      fractionText n = '.' :: Nat.padded width m := by
  rw [fractionText, if_neg hn]
  split
  · exact ⟨3, 6, n / 1000000, by decide, rfl, by omega, by omega, rfl⟩
  · split
    · exact ⟨6, 3, n / 1000, by decide, rfl, by omega, by omega, rfl⟩
    · exact ⟨9, 0, n, by decide, rfl, hlt, by omega, rfl⟩

theorem compare_fractionText {n m : Nat} (hn : n < 10 ^ 9) (hm : m < 10 ^ 9) :
    Text.compare (fractionText n) (fractionText m) = compare n m := by
  by_cases heq : n = m
  · rw [heq, Text.compare_self, compare_eq_iff_eq.mpr rfl]
  by_cases hn0 : n = 0
  · obtain ⟨width, zeros, m', -, -, -, -, hm'⟩ := exists_fractionText (n := m) (by omega) hm
    rw [hm', hn0, compare_lt_iff_lt.mpr (by omega)]
    rfl
  by_cases hm0 : m = 0
  · obtain ⟨width, zeros, n', -, -, -, -, hn'⟩ := exists_fractionText hn0 hn
    rw [hn', hm0, compare_gt_iff_gt.mpr (by omega)]
    rfl
  obtain ⟨width, zeros, n', hw, hlength, hlt, hvalue, hn'⟩ := exists_fractionText hn0 hn
  obtain ⟨width', zeros', m', hw', hlength', hlt', hvalue', hm'⟩ := exists_fractionText hm0 hm
  -- with their zeros both are fields of nine digits
  have hfull : Nat.padded width n' ++ List.replicate zeros '0' = Nat.padded 9 n := by
    rw [← Nat.padded_add_zeros hw, hlength, hvalue]
  have hfull' : Nat.padded width' m' ++ List.replicate zeros' '0' = Nat.padded 9 m := by
    rw [← Nat.padded_add_zeros hw', hlength', hvalue']
  have hcompare := Nat.compare_padded (by decide) hn hm
  have hdigits : ∀ {width n : Nat}, ∀ d ∈ Nat.padded width n, '0' ≤ d := fun d hd =>
    Numeral.forall_isDigit (p := fun d => '0' ≤ d) (by decide) (Nat.isDigit_of_mem_padded hd)
  rw [hn', hm', Text.compare_cons_self,
    Text.compare_of_zeros (i := zeros) (j := zeros') hdigits hdigits, hfull, hfull', hcompare]
  · rw [Nat.length_padded hw hlt, Nat.length_padded hw' hlt', hlength, hlength']
  · rw [hfull, hfull']
    intro hsame
    rw [hsame, Text.compare_self] at hcompare
    exact heq (compare_eq_iff_eq.mp hcompare.symm)

theorem mem_fractionText {n : Nat} : ∀ c ∈ fractionText n, c ∈ '.' :: Numeral.digitChars := by
  have hpadded : ∀ width m : Nat, ∀ c ∈ '.' :: Nat.padded width m, c ∈ '.' :: Numeral.digitChars := by
    intro width m c hc
    rcases List.mem_cons.mp hc with rfl | hc
    · exact List.mem_cons_self
    · exact List.mem_cons_of_mem _ (Numeral.mem_digitChars (Nat.isDigit_of_mem_padded hc))
  rw [fractionText]
  split
  · exact nofun
  · split
    · exact hpadded 3 _
    · split
      · exact hpadded 6 _
      · exact hpadded 9 _

/-- A count since midnight that lies within the day is a time of day. -/
theorem ofCount?_eq_some {unit : TimeUnit} {count : Int} (h : 0 ≤ count)
    (hlt : count < secondsPerDay * unit.perSecond) :
    ofCount? unit count =
      some ⟨(count / unit.perSecond).toNat, unit.fraction count⟩ := by
  have hseconds : count / unit.perSecond < secondsPerDay :=
    Int.ediv_lt_of_lt_mul unit.perSecond_pos hlt
  have hnonneg : 0 ≤ count / unit.perSecond := Int.ediv_nonneg h unit.perSecond_pos.le
  have hmod := Int.emod_nonneg count unit.perSecond_pos.ne'
  have hsmall : count / unit.perSecond % (UInt32.size : Int) = count / unit.perSecond := by
    apply Int.emod_eq_of_lt hnonneg
    unfold secondsPerDay at hseconds
    simp only [UInt32.size]
    omega
  rw [ofCount?]
  simp only [Int.tdiv_eq_ediv_of_nonneg h, Int.tmod_eq_emod_of_nonneg h, hsmall]
  rw [if_pos]
  · rfl
  · rw [Bool.and_eq_true, decide_eq_true_eq, decide_eq_true_eq]
    exact ⟨hmod, by omega⟩

/-- Times of a day are ordered by their counts. -/
theorem compare_text {unit : TimeUnit} {u v : Int} (hu : 0 ≤ u)
    (hu' : u < secondsPerDay * unit.perSecond) (hv : 0 ≤ v)
    (hv' : v < secondsPerDay * unit.perSecond) :
    Text.compare (text ⟨(u / unit.perSecond).toNat, unit.fraction u⟩)
      (text ⟨(v / unit.perSecond).toNat, unit.fraction v⟩) = compare u v := by
  have hnonneg : ∀ {count : Int}, 0 ≤ count → 0 ≤ count / unit.perSecond :=
    fun h => Int.ediv_nonneg h unit.perSecond_pos.le
  have hlt : ∀ {count : Int}, 0 ≤ count → count < secondsPerDay * unit.perSecond →
      (count / unit.perSecond).toNat < secondsPerDay := by
    intro count h hlt
    have hseconds := Int.ediv_lt_of_lt_mul unit.perSecond_pos hlt
    have hnonneg := hnonneg h
    omega
  rw [text_eq, text_eq, compare_clockText_append (hlt hu hu') (hlt hv hv'),
    compare_fractionText (unit.fraction_lt u) (unit.fraction_lt v),
    Int.compare_toNat (hnonneg hu) (hnonneg hv), unit.compare_count u v]

end TimeOfDay

/-! ## Instants -/

/-- Counts of one second such that the fraction of one is written as a start of that of the other; no
fraction is a start of each. -/
def TimeUnit.Nested (unit : TimeUnit) (u v : Int) : Prop :=
  u / unit.perSecond = v / unit.perSecond ∧
    (TimeOfDay.fractionText (unit.fraction u) <+: TimeOfDay.fractionText (unit.fraction v) ∨
      TimeOfDay.fractionText (unit.fraction v) <+: TimeOfDay.fractionText (unit.fraction u))

instance (unit : TimeUnit) (u v : Int) : Decidable (unit.Nested u v) :=
  inferInstanceAs (Decidable (_ ∧ _))

namespace DateTime

theorem ofCount?_eq_some {unit : TimeUnit} {count offset : Int} {instant : DateTime}
    (h : ofCount? unit count offset = some instant) :
    instant = ofSeconds (count / unit.perSecond + offset) (unit.fraction count) := by
  obtain ⟨date, -, hinstant⟩ := Option.map_eq_some_iff.mp h
  exact hinstant.symm

/-- Texts that start with instants are ordered by the seconds of these first. -/
theorem compare_text_ofSeconds_append {seconds other : Int} {n m : Nat}
    (h : (ofSeconds seconds n).date.HasShortYear) (h' : (ofSeconds other m).date.HasShortYear)
    (s t : List Char) :
    Text.compare ((ofSeconds seconds n).text ++ s) ((ofSeconds other m).text ++ t) =
      (compare seconds other).then
        (Text.compare (TimeOfDay.fractionText n ++ s) (TimeOfDay.fractionText m ++ t)) := by
  have hmod : ∀ seconds : Int, 0 ≤ seconds % secondsPerDay :=
    fun seconds => Int.emod_nonneg seconds secondsPerDay_pos.ne'
  have hlt : ∀ seconds : Int, (seconds % secondsPerDay).toNat < secondsPerDay := by
    intro seconds
    unfold secondsPerDay
    omega
  simp only [text, TimeOfDay.text_eq, List.append_assoc, List.cons_append]
  rw [ofSeconds, ofSeconds, Date.compare_text_ofDays_append h h', Text.compare_cons_self,
    TimeOfDay.compare_clockText_append (hlt seconds) (hlt other),
    Int.compare_toNat (hmod seconds) (hmod other),
    Int.compare_ediv_emod secondsPerDay_pos seconds other, Ordering.then_assoc]

variable {unit : TimeUnit} {u v offset : Int} {a b : DateTime}

/-- Instants of one offset are ordered by their counts, also before a zone that begins with a sign. -/
theorem compare_text_below (ha : ofCount? unit u offset = some a)
    (hb : ofCount? unit v offset = some b) (ha' : a.date.HasShortYear) (hb' : b.date.HasShortYear)
    {s : List Char} (hs : ∀ c, s.head? = some c → c = '+' ∨ c = '-') :
    Text.compare (a.text ++ s) (b.text ++ s) = compare u v := by
  obtain rfl := ofCount?_eq_some ha
  obtain rfl := ofCount?_eq_some hb
  have hbelow : ∀ n, ∀ d ∈ TimeOfDay.fractionText n, ∀ c, s.head? = some c → c < d := by
    intro n d hd c hc
    have hall : ∀ d ∈ '.' :: Numeral.digitChars, '+' < d ∧ '-' < d :=
      List.forall_iff_forall_mem.mp (by decide)
    obtain ⟨hplus, hminus⟩ := hall d (TimeOfDay.mem_fractionText d hd)
    rcases hs c hc with rfl | rfl
    · exact hplus
    · exact hminus
  rw [compare_text_ofSeconds_append ha' hb', Text.compare_append_below (hbelow _) (hbelow _),
    TimeOfDay.compare_fractionText (unit.fraction_lt u) (unit.fraction_lt v),
    unit.compare_count u v]
  congr 1
  apply compare_congr <;> omega

/-- Before a `Z` instants of one offset are ordered by their counts as well, but the other way round
where the written fraction of one is a start of that of the other. -/
theorem compare_text_above (ha : ofCount? unit u offset = some a)
    (hb : ofCount? unit v offset = some b) (ha' : a.date.HasShortYear)
    (hb' : b.date.HasShortYear) :
    Text.compare (a.text ++ ['Z']) (b.text ++ ['Z']) =
      if unit.Nested u v then (compare u v).swap else compare u v := by
  obtain rfl := ofCount?_eq_some ha
  obtain rfl := ofCount?_eq_some hb
  have habove : ∀ n, ∀ d ∈ TimeOfDay.fractionText n, d < 'Z' := by
    have hall : ∀ d ∈ '.' :: Numeral.digitChars, d < 'Z' := List.forall_iff_forall_mem.mp (by decide)
    exact fun n d hd => hall d (TimeOfDay.mem_fractionText d hd)
  have hseconds : compare (u / unit.perSecond + offset) (v / unit.perSecond + offset) =
      compare (u / unit.perSecond) (v / unit.perSecond) := by apply compare_congr <;> omega
  rw [compare_text_ofSeconds_append ha' hb', Text.compare_append_above (habove _) (habove _),
    TimeOfDay.compare_fractionText (unit.fraction_lt u) (unit.fraction_lt v), hseconds,
    unit.compare_count u v]
  by_cases hsame : u / unit.perSecond = v / unit.perSecond
  · simp only [TimeUnit.Nested, hsame, compare_eq_iff_eq.mpr, true_and, Ordering.eq_then]
  · -- the fractions do not matter for instants of different seconds
    rw [if_neg fun h : unit.Nested u v => hsame h.1]
    rcases lt_or_gt_of_ne hsame with h | h
    · rw [compare_lt_iff_lt.mpr h]
      rfl
    · rw [compare_gt_iff_gt.mpr h]
      rfl

end DateTime

end TableScope
