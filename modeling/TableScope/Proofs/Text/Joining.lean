import TableScope.Proofs.Text.Parts
import TableScope.Text.Pieces

/-! # Joined and spaced texts

Texts that hold no separator are the pieces of what they are joined to with it (`pieces_intercalate`).
Trimming leaves of a text with blanks around it what has no blank ends, and nothing else
(`trim_eq_iff`).
-/
set_option autoImplicit false

namespace TableScope.Text

variable {separator : Char} {s t : List Char}

/-! ## Pieces -/

theorem pieces_eq_splitOn (separator : Char) (s : List Char) :
    pieces separator s = s.splitOn separator := by
  induction s with
  | nil => rfl
  | cons c s ih =>
    rw [pieces, List.splitOn_cons_eq_if_modifyHead, ← ih]
    by_cases hc : c = separator
    · simp [hc]
    · obtain ⟨first, others, hp⟩ := List.exists_cons_of_ne_nil (pieces_ne_nil separator s)
      simp [hc, hp]

theorem pieces_intercalate {texts : List (List Char)} (hne : texts ≠ [])
    (h : ∀ text ∈ texts, separator ∉ text) :
    pieces separator ([separator].intercalate texts) = texts := by
  rw [pieces_eq_splitOn, List.splitOn_intercalate separator h hne]

theorem pieces_of_not_mem (h : separator ∉ s) : pieces separator s = [s] := by
  rw [pieces_eq_splitOn, List.splitOn_eq_singleton h]

/-! ## Blanks around a text -/

/-- The second text is the first one with blanks on either side, or without. -/
inductive Spaced (s : List Char) : List Char → Prop
  | intro (left right : List Char) (hl : ∀ c ∈ left, isBlank c = true)
    (hr : ∀ c ∈ right, isBlank c = true) : Spaced s (left ++ (s ++ right))

theorem Spaced.not_mem (h : Spaced s t) (hs : separator ∉ s) (hb : isBlank separator = false) :
    separator ∉ t := by
  obtain ⟨left, right, hl, hr⟩ := h
  have hblank : isBlank separator ≠ true := by simp [hb]
  simp only [List.mem_append, not_or]
  exact ⟨fun hm => hblank (hl _ hm), hs, fun hm => hblank (hr _ hm)⟩

theorem Spaced.trim_eq (h : Spaced s t) (hs : Trimmed s) : trim t = s := by
  obtain ⟨left, right, hl, hr⟩ := h
  rw [trim_blanks_append hl, trim_append_blanks hr, trim_of_trimmed s hs]

theorem exists_spaced (t : List Char) : ∃ s, Trimmed s ∧ Spaced s t := by
  obtain ⟨left, rest, rfl, hl, hrest⟩ := exists_span isBlank t
  obtain ⟨right, middle, hmiddle, hr, hlast⟩ := exists_span isBlank rest.reverse
  have hsplit : rest = middle.reverse ++ right.reverse := by
    rw [← List.reverse_append, ← hmiddle, List.reverse_reverse]
  refine ⟨middle.reverse, ⟨fun c hc => hrest c ?_, fun c hc => hlast c ?_⟩, ?_⟩
  · rw [hsplit, List.head?_append, hc]
    rfl
  · rwa [List.getLast?_reverse] at hc
  · rw [hsplit]
    exact .intro left right.reverse hl fun c hc => hr c (List.mem_reverse.mp hc)

theorem trim_eq_iff : trim t = s ↔ Trimmed s ∧ Spaced s t := by
  constructor
  · rintro rfl
    obtain ⟨s, htrimmed, hspaced⟩ := exists_spaced t
    rw [hspaced.trim_eq htrimmed]
    exact ⟨htrimmed, hspaced⟩
  · rintro ⟨htrimmed, hspaced⟩
    exact hspaced.trim_eq htrimmed

end TableScope.Text
