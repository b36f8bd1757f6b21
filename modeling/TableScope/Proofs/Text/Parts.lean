import Mathlib.Data.List.TakeDrop
import Mathlib.Data.String.Basic
import TableScope.Text.Blank
import TableScope.Text.Search

/-! # Parts of composed texts

A text put together around a character is searched on either side of it, as long as what is looked for
does not hold that character (`occurs_append_cons`), and is cut at the first occurrence on the one side
or the other (`split?_append_cons`). Trimming undoes blanks put at the ends, and the order of texts is
the lexicographic one.
-/
set_option autoImplicit false

namespace TableScope.Text

variable {part l r s t : List Char} {c : Char}

/-! ## Occurrences -/

theorem occurs_iff_infix : occurs part s = true ↔ part <:+: s := by
  constructor
  · intro h
    obtain ⟨⟨before, after⟩, hs⟩ := Option.isSome_iff_exists.mp h
    exact ⟨before, after, (eq_append_of_split? hs).symm⟩
  · rintro ⟨before, after, rfl⟩
    exact occurs_append part before after

theorem not_occurs_iff : occurs part s = false ↔ ¬ part <:+: s := by
  rw [← occurs_iff_infix, Bool.not_eq_true]

/-- A start that does not hold a character ends before it. -/
theorem isPrefixOf_append_cons (hc : c ∉ part) :
    part.isPrefixOf (l ++ c :: r) = part.isPrefixOf l := by
  rw [Bool.eq_iff_iff, List.isPrefixOf_iff_prefix, List.isPrefixOf_iff_prefix]
  constructor
  · intro h
    have hlong : l ++ [c] <+: l ++ c :: r := ⟨r, by simp⟩
    rcases List.prefix_or_prefix_of_prefix h hlong with hshort | hover
    · rcases List.prefix_concat_iff.mp hshort with rfl | hstart
      · exact absurd (by simp) hc
      · exact hstart
    · exact absurd (hover.subset (by simp)) hc
  · rintro ⟨rest, rfl⟩
    exact ⟨rest ++ c :: r, by simp⟩

theorem split?_append_cons (hc : c ∉ part) (hl : occurs part l = false) :
    split? part (l ++ c :: r) = (split? part r).map fun cut => (l ++ c :: cut.1, cut.2) := by
  induction l with
  | nil =>
    have hne : part.isPrefixOf ([] : List Char) = false := by
      cases part with
      | nil => cases hl
      | cons a part => rfl
    rw [List.nil_append, split?, ← List.nil_append (c :: r), isPrefixOf_append_cons hc, hne]
    rfl
  | cons a l ih =>
    rw [occurs, split?] at hl
    split at hl
    · cases hl
    · next hp =>
      rw [Option.isSome_map] at hl
      rw [List.cons_append, split?, ← List.cons_append, isPrefixOf_append_cons hc, if_neg hp, ih hl,
        Option.map_map]
      rfl

theorem split?_self (part r : List Char) : split? part (part ++ r) = some ([], r) := by
  cases part with
  | nil => cases r <;> rfl
  | cons a part =>
    have hp : (a :: part).isPrefixOf (a :: (part ++ r)) = true :=
      List.isPrefixOf_iff_prefix.mpr ⟨r, rfl⟩
    rw [List.cons_append, split?, if_pos hp, ← List.cons_append, List.drop_left]

theorem occurs_append_cons (hc : c ∉ part) :
    occurs part (l ++ c :: r) = (occurs part l || occurs part r) := by
  cases hl : occurs part l with
  | true =>
    obtain ⟨before, after, rfl⟩ := occurs_iff_infix.mp hl
    rw [Bool.true_or, occurs_iff_infix]
    exact ⟨before, after ++ c :: r, by simp⟩
  | false =>
    rw [Bool.false_or, occurs, split?_append_cons hc hl, Option.isSome_map]
    rfl

/-- A part is cut at before any other place where it stands. -/
theorem length_le_of_split? (h : split? part s = some (l, r)) {before after : List Char}
    (hs : s = before ++ part ++ after) : l.length ≤ before.length := by
  induction s generalizing l before with
  | nil =>
    rw [split?] at h
    split at h
    · cases h; exact Nat.zero_le _
    · cases h
  | cons c s ih =>
    rw [split?] at h
    split at h
    · cases h; exact Nat.zero_le _
    · next hp =>
      obtain ⟨⟨b, a⟩, hcut, hba⟩ := Option.map_eq_some_iff.mp h
      cases hba
      cases before with
      | nil => exact absurd (List.isPrefixOf_iff_prefix.mpr ⟨after, hs.symm⟩) hp
      | cons d before =>
        obtain ⟨-, hs⟩ := List.cons.inj hs
        exact Nat.succ_le_succ (ih hcut hs)

theorem split?_eq_some_iff : split? part s = some (l, r) ↔ s = l ++ part ++ r ∧
    ∀ before after, s = before ++ part ++ after → l.length ≤ before.length := by
  constructor
  · exact fun h => ⟨eq_append_of_split? h, fun before after => length_le_of_split? h⟩
  · rintro ⟨rfl, hfirst⟩
    obtain ⟨⟨before, after⟩, hcut⟩ := Option.isSome_iff_exists.mp (occurs_append part l r)
    have hs := eq_append_of_split? hcut
    have hlength : l.length = before.length :=
      Nat.le_antisymm (hfirst before after hs) (length_le_of_split? hcut rfl)
    rw [List.append_assoc, List.append_assoc] at hs
    obtain ⟨rfl, hs⟩ := List.append_inj hs hlength
    rw [hcut, ← List.append_cancel_left (List.append_cancel_left hs)]

/-! ### Gaps -/

theorem occurs_nil (hp : part ≠ []) : occurs part [] = false :=
  not_occurs_iff.mpr fun h => hp (List.eq_nil_of_infix_nil h)

section Gaps

variable {gap : List Char} (hp : part ≠ []) (hg : ∀ c ∈ gap, c ∉ part)

include hp hg

theorem occurs_gap_append : occurs part (gap ++ s) = occurs part s := by
  induction gap with
  | nil => rfl
  | cons c gap ih =>
    obtain ⟨hc, hg⟩ := List.forall_mem_cons.mp hg
    rw [List.cons_append, ← List.nil_append (c :: _), occurs_append_cons hc, occurs_nil hp,
      Bool.false_or, ih hg]

/-- What does not reach into a gap stands on one side of it. -/
theorem occurs_append_gap_append (hne : gap ≠ []) :
    occurs part (l ++ (gap ++ r)) = (occurs part l || occurs part r) := by
  obtain ⟨c, rest, rfl⟩ := List.exists_cons_of_ne_nil hne
  obtain ⟨hc, hrest⟩ := List.forall_mem_cons.mp hg
  rw [List.cons_append, occurs_append_cons hc, occurs_gap_append hp hrest]

theorem occurs_append_gap : occurs part (s ++ gap) = occurs part s := by
  by_cases hne : gap = []
  · rw [hne, List.append_nil]
  · have h := occurs_append_gap_append (l := s) (r := []) hp hg hne
    rwa [List.append_nil, occurs_nil hp, Bool.or_false] at h

end Gaps

/-! ## Spans -/

theorem span_append {p : Char → Bool} (hs : ∀ c ∈ s, p c = true)
    (hr : ∀ c, r.head? = some c → p c = false) : (s ++ r).span p = (s, r) := by
  rw [List.span_eq_takeWhile_dropWhile, List.takeWhile_append_of_pos hs,
    List.dropWhile_append_of_pos hs]
  cases r with
  | nil => rw [List.takeWhile_nil, List.dropWhile_nil, List.append_nil]
  | cons c r =>
    have hc := Bool.eq_false_iff.mp (hr c rfl)
    rw [List.takeWhile_cons_of_neg hc, List.dropWhile_cons_of_neg hc, List.append_nil]

/-- The characters at the start that satisfy `p`, and the rest. -/
theorem exists_span (p : Char → Bool) (s : List Char) : ∃ l r, s = l ++ r ∧
    (∀ c ∈ l, p c = true) ∧ ∀ c, r.head? = some c → p c = false := by
  refine ⟨s.takeWhile p, s.dropWhile p, List.takeWhile_append_dropWhile.symm,
    fun c hc => List.all_eq_true.mp List.all_takeWhile c hc, fun c hc => ?_⟩
  have hhead := List.head?_dropWhile_not p s
  rwa [hc] at hhead

theorem append_of_span {p : Char → Bool} (h : s.span p = (l, r)) : s = l ++ r := by
  rw [List.span_eq_takeWhile_dropWhile, Prod.mk.injEq] at h
  rw [← h.1, ← h.2, List.takeWhile_append_dropWhile]

/-! ## Blank ends -/

instance (s : List Char) : Decidable (Trimmed s) :=
  decidable_of_iff ((s.head?.all fun c => !isBlank c) ∧ (s.getLast?.all fun c => !isBlank c)) (by
    simp only [Trimmed, Option.all_eq_true, Bool.not_eq_true'])

theorem trim_cons_blank (hc : isBlank c = true) : trim (c :: s) = trim s := by
  rw [trim, trim, trimStart, List.dropWhile_cons, if_pos hc]
  rfl

theorem trimEnd_append_blank (hc : isBlank c = true) : trimEnd (s ++ [c]) = trimEnd s := by
  rw [trimEnd, trimEnd, List.reverse_append, List.reverse_singleton, List.singleton_append, trimStart,
    List.dropWhile_cons, if_pos hc]
  rfl

theorem trim_append_blank (hc : isBlank c = true) : trim (s ++ [c]) = trim s := by
  rw [trim, trim, trimStart, List.dropWhile_append]
  split
  · next he =>
    rw [List.isEmpty_iff] at he
    rw [trimStart, he, List.dropWhile_cons, if_pos hc]
    rfl
  · exact trimEnd_append_blank hc

theorem trim_blanks_append {blanks : List Char} (hb : ∀ c ∈ blanks, isBlank c = true) :
    trim (blanks ++ s) = trim s := by
  induction blanks with
  | nil => rfl
  | cons c blanks ih =>
    obtain ⟨hc, hb⟩ := List.forall_mem_cons.mp hb
    rw [List.cons_append, trim_cons_blank hc, ih hb]

theorem trim_append_blanks {blanks : List Char} (hb : ∀ c ∈ blanks, isBlank c = true) :
    trim (s ++ blanks) = trim s := by
  induction blanks generalizing s with
  | nil => rw [List.append_nil]
  | cons c blanks ih =>
    obtain ⟨hc, hb⟩ := List.forall_mem_cons.mp hb
    rw [List.append_cons, ih hb, trim_append_blank hc]

theorem mem_of_mem_trim (h : c ∈ trim s) : c ∈ s := by
  rw [trim, trimEnd, List.mem_reverse] at h
  have hstart : c ∈ trimStart s := List.mem_reverse.mp ((List.dropWhile_sublist isBlank).subset h)
  exact (List.dropWhile_sublist isBlank).subset hstart

/-! ## Order -/

theorem compare_eq_eq : compare s t = .eq ↔ s = t := by
  induction s generalizing t with
  | nil => cases t <;> simp [compare]
  | cons a s ih =>
    cases t with
    | nil => simp [compare]
    | cons b t =>
      rw [compare, Ordering.then_eq_eq, ih, compare_eq_iff_eq, Char.toNat_inj, List.cons.injEq]

theorem compare_eq_lt : compare s t = .lt ↔ s < t := by
  induction s generalizing t with
  | nil => cases t <;> simp [compare]
  | cons a s ih =>
    cases t with
    | nil => simp [compare]
    | cons b t =>
      rw [compare, Ordering.then_eq_lt, ih, compare_lt_iff_lt, compare_eq_iff_eq, Char.toNat_inj,
        List.cons_lt_cons_iff]
      rfl

theorem compare_eq_gt : compare s t = .gt ↔ t < s := by
  constructor
  · intro h
    have hlt : ¬ s < t := fun hlt => by rw [compare_eq_lt.mpr hlt] at h; cases h
    have hne : t ≠ s := fun he => by rw [compare_eq_eq.mpr he.symm] at h; cases h
    exact lt_of_le_of_ne (not_lt.mp hlt) hne
  · intro h
    cases hc : compare s t with
    | lt => exact absurd (compare_eq_lt.mp hc) (not_lt_of_gt h)
    | eq => exact absurd (compare_eq_eq.mp hc) (ne_of_gt h)
    | gt => rfl

end TableScope.Text
