/-! # Parts of texts and their order

`split? part s` cuts a text at the first occurrence of a part, `occurs part s` says whether there is
one, and `compare s t` orders texts by their characters, left to right, a proper start of a text
coming before it.
-/
set_option autoImplicit false

namespace TableScope.Text

/-! ## Occurrences -/

/-- What stands before and after the first occurrence of `part`. -/
def split? (part : List Char) : List Char → Option (List Char × List Char)
  | [] => if part.isEmpty then some ([], []) else none
  | c :: r =>
    if part.isPrefixOf (c :: r) then some ([], (c :: r).drop part.length)
    else (split? part r).map fun (before, after) => (c :: before, after)

/-- Whether `part` stands anywhere in the text. -/
def occurs (part s : List Char) : Bool := (split? part s).isSome

theorem eq_append_of_split? {part s l r : List Char} (h : split? part s = some (l, r)) :
    s = l ++ part ++ r := by
  induction s generalizing l with
  | nil =>
    by_cases hp : part = []
    · subst hp
      simp only [split?, List.isEmpty_nil, if_true, Option.some.injEq, Prod.mk.injEq] at h
      simp [← h.1, ← h.2]
    · simp [split?, hp] at h
  | cons c s ih =>
    by_cases hp : part.isPrefixOf (c :: s) = true
    · simp only [split?, hp, if_true, Option.some.injEq, Prod.mk.injEq] at h
      obtain ⟨t, ht⟩ := List.isPrefixOf_iff_prefix.mp hp
      rw [← h.1, ← h.2, ← ht]
      simp
    · simp only [split?, hp, if_neg, Bool.false_eq_true, not_false_eq_true,
        Option.map_eq_some_iff, Prod.mk.injEq] at h
      obtain ⟨⟨b, a⟩, hba, rfl, rfl⟩ := h
      simp [ih hba]

theorem occurs_append (part l r : List Char) : occurs part (l ++ part ++ r) = true := by
  induction l with
  | nil =>
    cases part with
    | nil => cases r <;> simp [occurs, split?]
    | cons c p =>
      have h : (c :: p).isPrefixOf (c :: (p ++ r)) = true :=
        List.isPrefixOf_iff_prefix.mpr ⟨r, by simp⟩
      simp [occurs, split?, h]
  | cons c l ih =>
    by_cases h : part.isPrefixOf (c :: (l ++ part ++ r)) = true
    · simp only [List.cons_append, occurs, split?, h, if_true, Option.isSome_some]
    · rw [occurs] at ih ⊢
      simp only [List.cons_append, split?, h, if_neg, Bool.false_eq_true, not_false_eq_true,
        Option.isSome_map, ih]

/-! ## Order -/

/-- Lexicographic order of the characters. -/
def compare : List Char → List Char → Ordering
  | [], [] => .eq
  | [], _ :: _ => .lt
  | _ :: _, [] => .gt
  | a :: s, b :: t => (Ord.compare a.toNat b.toNat).then (compare s t)

theorem compare_self (s : List Char) : compare s s = .eq := by
  induction s with
  | nil => rfl
  | cons c s ih => simp [compare, ih]

end TableScope.Text
