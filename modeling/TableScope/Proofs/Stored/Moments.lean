import TableScope.Proofs.Calendar.Instants
import TableScope.Proofs.Filter.Meaning
import TableScope.Stored.Column

/-! # Dates, times and instants as literals

The text of a date, a time or an instant begins with digits and a separator, so that it is read as the
literal that it is (`Literal.ofText_separated`), and comparing a cell with it compares texts. For types
without a zone that is the order in time (`StoredType.compare_moments`). The cell of an instant with a
zone is its local text with the zone after it (`StoredType.cell_timestamp`).
-/
set_option autoImplicit false

namespace TableScope

/-! ## Texts of moments -/

/-- The characters of dates, times and zones. -/
def shownChars : List Char := ['+', '-', ':', 'T', 'Z'] ++ '.' :: Numeral.digitChars

theorem Nat.mem_shownChars {width n : Nat} : ∀ c ∈ Nat.padded width n, c ∈ shownChars := by
  intro c hc
  have hdigit := Numeral.mem_digitChars (Nat.isDigit_of_mem_padded hc)
  exact List.mem_append_right _ (List.mem_cons_of_mem _ hdigit)

theorem Date.mem_shownChars {date : Date} (h : date.HasShortYear) :
    ∀ c ∈ date.text, c ∈ shownChars := by
  simp only [text, yearText_of_short h, List.forall_mem_append, List.forall_mem_cons]
  exact ⟨Nat.mem_shownChars, by decide, Nat.mem_shownChars, by decide, Nat.mem_shownChars⟩

theorem TimeOfDay.mem_shownChars (time : TimeOfDay) : ∀ c ∈ time.text, c ∈ shownChars := by
  simp only [text, List.forall_mem_append, List.forall_mem_cons]
  exact ⟨Nat.mem_shownChars, by decide, Nat.mem_shownChars, by decide, Nat.mem_shownChars,
    fun c hc => List.mem_append_right _ (mem_fractionText c hc)⟩

theorem DateTime.mem_shownChars {instant : DateTime} (h : instant.date.HasShortYear) :
    ∀ c ∈ instant.text, c ∈ shownChars := by
  simp only [text, List.forall_mem_append, List.forall_mem_cons]
  exact ⟨Date.mem_shownChars h, by decide, instant.time.mem_shownChars⟩

theorem isBlank_of_mem_shownChars : ∀ c ∈ shownChars, Text.isBlank c = false :=
  List.forall_iff_forall_mem.mp (by decide)

theorem Operator.free_of_forall_shown {s : List Char} (h : ∀ c ∈ s, c ∈ shownChars) : Free s := by
  have hall : ∀ c ∈ shownChars, ∀ op ∈ all, c ∉ op.spelling.toList :=
    List.forall_iff_forall_mem.mp (by decide)
  exact free_of_forall_not_mem fun c hc op => hall c (h c hc) op (mem_all op)

/-- A text of a date, also with more after it, is read as itself. -/
theorem Date.ofText_text_append {date : Date} (h : date.HasShortYear) {s : List Char}
    (hs : ∀ c ∈ s, c ∈ shownChars) :
    Literal.ofText (date.text ++ s) = .string (String.ofList (date.text ++ s)) := by
  have hall : ∀ c ∈ date.text ++ s, c ∈ shownChars :=
    List.forall_mem_append.mpr ⟨mem_shownChars h, hs⟩
  rw [text, yearText_of_short h, List.append_assoc, List.cons_append] at hall ⊢
  refine Literal.ofText_separated Nat.padded_ne_nil (fun d => Nat.isDigit_of_mem_padded)
    (by decide) ?_
  intro c hc
  have hm := hall c (List.mem_append_right _ (List.mem_cons_of_mem _ hc))
  exact isBlank_of_mem_shownChars c hm

theorem TimeOfDay.ofText_text (time : TimeOfDay) :
    Literal.ofText time.text = .string (String.ofList time.text) := by
  refine Literal.ofText_separated Nat.padded_ne_nil (fun d => Nat.isDigit_of_mem_padded)
    (by decide) ?_
  intro c hc
  have hm : c ∈ time.text := List.mem_append_right _ (List.mem_cons_of_mem _ hc)
  exact isBlank_of_mem_shownChars c (time.mem_shownChars c hm)

theorem DateTime.ofText_text_append {instant : DateTime} (h : instant.date.HasShortYear)
    {s : List Char} (hs : ∀ c ∈ s, c ∈ shownChars) :
    Literal.ofText (instant.text ++ s) = .string (String.ofList (instant.text ++ s)) := by
  rw [text, List.append_assoc, List.cons_append]
  apply Date.ofText_text_append h
  simp only [List.forall_mem_append, List.forall_mem_cons]
  exact ⟨by decide, instant.time.mem_shownChars, hs⟩

/-! ## Zones -/

namespace StoredType

namespace Zone

def offset : Zone → Int
  | fixed _ offset => offset.seconds
  | absent | invalid _ => 0

/-- What is written after the local text of an instant. -/
def suffix : Zone → List Char
  | fixed _ offset => offset.text
  | absent | invalid _ => []

/-- The zone is shown as `Z`. -/
def IsUniversal : Zone → Prop
  | fixed _ offset => offset.seconds = 0
  | absent | invalid _ => False

instance (zone : Zone) : Decidable zone.IsUniversal :=
  match zone with
  | .fixed _ offset => inferInstanceAs (Decidable (offset.seconds = 0))
  | .absent | .invalid _ => inferInstanceAs (Decidable False)

theorem suffix_of_isUniversal {zone : Zone} (h : zone.IsUniversal) : zone.suffix = ['Z'] := by
  cases zone with
  | absent | invalid name => cases h
  | fixed name offset =>
    have hzero : offset.seconds = 0 := h
    rw [suffix, Offset.text, if_pos hzero]

theorem head?_suffix {zone : Zone} (h : ¬ zone.IsUniversal) (c : Char)
    (hc : zone.suffix.head? = some c) : c = '+' ∨ c = '-' := by
  cases zone with
  | absent | invalid name => cases hc
  | fixed name offset =>
    have hne : ¬ offset.seconds = 0 := h
    rw [suffix, Offset.text, if_neg hne] at hc
    have hsign := Option.some.inj hc
    split at hsign
    · exact .inr hsign.symm
    · exact .inl hsign.symm

theorem mem_suffix {zone : Zone} : ∀ c ∈ zone.suffix, c ∈ shownChars := by
  cases zone with
  | absent | invalid name => exact nofun
  | fixed name offset =>
    rw [suffix, Offset.text]
    split
    · exact List.forall_iff_forall_mem.mp (by decide)
    · simp only [List.forall_mem_append, List.forall_mem_cons]
      exact ⟨by split <;> decide, Nat.mem_shownChars, by decide, Nat.mem_shownChars⟩

end Zone

theorem timestampDisplay_eq {unit : TimeUnit} {zone : Zone} {count : Int} {instant : DateTime}
    (h : DateTime.ofCount? unit count zone.offset = some instant) :
    timestampDisplay unit zone count = .of (instant.text ++ zone.suffix) := by
  cases zone with
  | absent | invalid name =>
    have h : DateTime.ofCount? unit count 0 = some instant := h
    simp only [timestampDisplay, h]
    rfl
  | fixed name offset =>
    have h : DateTime.ofCount? unit count offset.seconds = some instant := h
    simp only [timestampDisplay, h]
    rfl

/-! ## Types without a zone -/

/-- Types of dates, times of day and instants without a zone. -/
inductive Unzoned : StoredType → Prop
  | date32 : Unzoned .date32
  | date64 : Unzoned .date64
  | time (unit : TimeUnit) : Unzoned (.time unit)
  | timestamp (unit : TimeUnit) (zone : Option String) (h : Zone.of zone = .absent) :
    Unzoned (.timestamp unit zone)

/-- What a value counts: the days or units since the start of 1970, or since midnight. -/
def count : (type : StoredType) → type.Value → Int
  | .date32, value => Int32.toInt value
  | .date64, value => Int64.toInt value
  | .time .second, value | .time .millisecond, value => Int32.toInt value
  | .time .microsecond, value | .time .nanosecond, value => Int64.toInt value
  | .timestamp _ _, value => Int64.toInt value
  | _, _ => 0

/-- A date or an instant is kept, and its local year has four digits; a time lies within the day. -/
def InRange : (type : StoredType) → type.Value → Prop
  | .date32, value =>
    ∃ date, Date.ofDays? (Int32.toInt value) = some date ∧ date.HasShortYear
  | .date64, value =>
    ∃ instant, DateTime.ofCount? .millisecond (Int64.toInt value) 0 = some instant ∧
      instant.date.HasShortYear
  | .time unit, value =>
    0 ≤ count (.time unit) value ∧ count (.time unit) value < secondsPerDay * unit.perSecond
  | .timestamp unit zone, value =>
    ∃ instant, DateTime.ofCount? unit (Int64.toInt value) (Zone.of zone).offset = some instant ∧
      instant.date.HasShortYear
  | _, _ => False

/-- Cells that hold texts are compared as texts if the second one is read as itself. -/
theorem compare_of_texts {first second : Cell} {s t : List Char} {order : Ordering}
    (hs : first = .string (String.ofList s)) (ht : second = .string (String.ofList t))
    (hread : Literal.ofText t = .string (String.ofList t)) (horder : Text.compare s t = order) :
    Literal.ofText second.text = .string (String.ofList second.text) ∧
      first.compare (Literal.ofText second.text) = .ordered order := by
  have htext : second.text = t := by rw [ht, Cell.text, String.toList_ofList]
  rw [htext, hread, hs, Cell.compare, String.toList_ofList, String.toList_ofList, horder]
  exact ⟨rfl, rfl⟩

theorem cell_date32 {value : Int32} {date : Date}
    (h : Date.ofDays? value.toInt = some date) :
    StoredType.date32.cell value = .string (String.ofList date.text) := by
  have hcell : date32.cell value = .string (String.ofList (dateDisplay value.toInt).full) := rfl
  rw [hcell, dateDisplay, h]
  rfl

theorem cell_date64 {value : Int64} {instant : DateTime}
    (h : DateTime.ofCount? .millisecond value.toInt 0 = some instant) :
    StoredType.date64.cell value = .string (String.ofList instant.text) := by
  have hcell : date64.cell value = .string (String.ofList (dateTimeDisplay value.toInt).full) := rfl
  rw [hcell, dateTimeDisplay, h]
  rfl

theorem cell_time {unit : TimeUnit} {value : (StoredType.time unit).Value} {clock : TimeOfDay}
    (h : TimeOfDay.ofCount? unit (count (.time unit) value) = some clock) :
    (StoredType.time unit).cell value = .string (String.ofList clock.text) := by
  have hcell : (StoredType.time unit).cell value =
      .string (String.ofList (timeDisplay unit (count (.time unit) value)).full) := by
    cases unit <;> rfl
  rw [hcell, timeDisplay, h]
  rfl

theorem cell_timestamp {unit : TimeUnit} {zone : Option String} {value : Int64}
    {instant : DateTime}
    (h : DateTime.ofCount? unit value.toInt (Zone.of zone).offset = some instant) :
    (StoredType.timestamp unit zone).cell value =
      .string (String.ofList (instant.text ++ (Zone.of zone).suffix)) := by
  have hcell : (StoredType.timestamp unit zone).cell value =
      .string (String.ofList (timestampDisplay unit (.of zone) value.toInt).full) := rfl
  rw [hcell, timestampDisplay_eq h]
  rfl

theorem ofDays?_eq_some {days : Int} {date : Date} (h : Date.ofDays? days = some date) :
    date = Date.ofDays days := by
  rw [Date.ofDays?] at h
  split at h
  · exact (Option.some.inj h).symm
  · cases h

/-- Without a zone, texts of dates, times and instants are read as themselves and compared in time. -/
theorem compare_moments (type : StoredType) (h : type.Unzoned) (u v : type.Value)
    (hu : type.InRange u) (hv : type.InRange v) :
    Literal.ofText (type.cell v).text = .string (String.ofList (type.cell v).text) ∧
      (type.cell u).compare (Literal.ofText (type.cell v).text) =
        .ordered (compare (type.count u) (type.count v)) := by
  cases h with
  | date32 =>
    obtain ⟨a, ha, ha'⟩ := hu
    obtain ⟨b, hb, hb'⟩ := hv
    obtain rfl := ofDays?_eq_some ha
    obtain rfl := ofDays?_eq_some hb
    have hread := Date.ofText_text_append hb' (s := []) nofun
    have horder := Date.compare_text_ofDays_append ha' hb' [] []
    rw [List.append_nil] at hread
    rw [List.append_nil, List.append_nil, Text.compare_self, Ordering.then_eq] at horder
    exact compare_of_texts (cell_date32 ha) (cell_date32 hb) hread horder
  | date64 =>
    obtain ⟨a, ha, ha'⟩ := hu
    obtain ⟨b, hb, hb'⟩ := hv
    have hread := DateTime.ofText_text_append hb' (s := []) nofun
    have horder := DateTime.compare_text_below ha hb ha' hb' (s := []) nofun
    rw [List.append_nil] at hread horder
    rw [List.append_nil] at horder
    exact compare_of_texts (cell_date64 ha) (cell_date64 hb) hread horder
  | time unit =>
    obtain ⟨hu, hu'⟩ := hu
    obtain ⟨hv, hv'⟩ := hv
    exact compare_of_texts (cell_time (TimeOfDay.ofCount?_eq_some hu hu'))
      (cell_time (TimeOfDay.ofCount?_eq_some hv hv')) (TimeOfDay.ofText_text _)
      (TimeOfDay.compare_text hu hu' hv hv')
  | timestamp unit zone h =>
    obtain ⟨a, ha, ha'⟩ := hu
    obtain ⟨b, hb, hb'⟩ := hv
    have hsuffix : (Zone.of zone).suffix = [] := by rw [h]; rfl
    have hread := DateTime.ofText_text_append hb' (s := (Zone.of zone).suffix) Zone.mem_suffix
    refine compare_of_texts (cell_timestamp ha) (cell_timestamp hb) hread ?_
    exact DateTime.compare_text_below ha hb ha' hb' (by rw [hsuffix]; exact nofun)

theorem compare_moments_readings :
    let type : StoredType := .timestamp .microsecond none
    let u : Int64 := 1709251199999000
    let v : Int64 := 1709251199999001
    type.Unzoned ∧ type.InRange u ∧ type.InRange v ∧
      (type.cell u).text = "2024-02-29T23:59:59.999".toList ∧
      Literal.ofText (type.cell v).text = .string "2024-02-29T23:59:59.999001" ∧
      (type.cell u).compare (Literal.ofText (type.cell v).text) = .ordered .lt := by
  intro type u v
  have htype : type.Unzoned := .timestamp _ _ rfl
  have hu : type.InRange u :=
    ⟨⟨⟨2024, 2, 29⟩, ⟨86399, 999000000⟩⟩, by decide +kernel, by decide, by decide⟩
  have hv : type.InRange v :=
    ⟨⟨⟨2024, 2, 29⟩, ⟨86399, 999001000⟩⟩, by decide +kernel, by decide, by decide⟩
  have htext : (type.cell u).text = "2024-02-29T23:59:59.999".toList := by decide +kernel
  have htext' : String.ofList (type.cell v).text = "2024-02-29T23:59:59.999001" := by decide +kernel
  have hcount : compare (type.count u) (type.count v) = .lt := by decide +kernel
  obtain ⟨hread, horder⟩ := compare_moments type htype u v hu hv
  rw [htext'] at hread
  rw [hcount] at horder
  exact ⟨htype, hu, hv, htext, hread, horder⟩

end StoredType

end TableScope
