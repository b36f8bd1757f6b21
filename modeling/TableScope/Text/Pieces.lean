/-! # Pieces of a text between separators

`pieces` cuts a text at every occurrence of a character. There is always one piece more than there
are separators, no piece holds one, and joining the pieces gives the text back.
-/
set_option autoImplicit false

namespace TableScope.Text

/-- The texts between the occurrences of a separator, empty ones included. -/
def pieces (separator : Char) : List Char → List (List Char)
  | [] => [[]]
  | c :: r =>
    if c = separator then [] :: pieces separator r
    else match pieces separator r with
      | [] => [[c]]
      | piece :: others => (c :: piece) :: others

theorem pieces_ne_nil (separator : Char) (s : List Char) : pieces separator s ≠ [] := by
  cases s with
  | nil => simp [pieces]
  | cons c r =>
    unfold pieces
    split
    · simp
    · split <;> simp

theorem not_mem_of_mem_pieces (separator : Char) (s piece : List Char)
    (h : piece ∈ pieces separator s) :
    separator ∉ piece := by
  induction s generalizing piece with
  | nil => simp_all [pieces]
  | cons c r ih =>
    unfold pieces at h
    by_cases hc : c = separator
    · simp only [hc, if_true, List.mem_cons] at h
      rcases h with rfl | h
      · simp
      · exact ih piece h
    · simp only [hc, if_false] at h
      split at h
      · simp only [List.mem_singleton] at h
        simp [h, Ne.symm hc]
      · next first others hp =>
        rcases List.mem_cons.mp h with rfl | h
        · have := ih first (by simp [hp])
          simp [this, Ne.symm hc]
        · exact ih piece (by simp [hp, h])

theorem intercalate_pieces (separator : Char) (s : List Char) :
    [separator].intercalate (pieces separator s) = s := by
  induction s with
  | nil => rfl
  | cons c r ih =>
    unfold pieces
    by_cases hc : c = separator
    · subst hc
      rw [if_pos rfl]
      obtain ⟨first, others, hp⟩ := List.exists_cons_of_ne_nil (pieces_ne_nil c r)
      rw [hp] at ih ⊢
      simpa [List.intercalate] using ih
    · rw [if_neg hc]
      obtain ⟨first, others, hp⟩ := List.exists_cons_of_ne_nil (pieces_ne_nil separator r)
      rw [hp] at ih ⊢
      cases others <;> simp_all [List.intercalate]

end TableScope.Text
