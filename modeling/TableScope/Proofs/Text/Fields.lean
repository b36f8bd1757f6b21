import TableScope.Calendar.Date
import TableScope.Proofs.Number.Numerals
import TableScope.Proofs.Text.Parts

/-! # The order of texts made of fields

Texts that start with fields of equal length are ordered by these first (`Text.compare_append_append`),
and a field of decimal digits of a fixed width is ordered as the number in it (`Nat.compare_padded`).
What follows a field of varying length decides the order only where one field is a start of the other:
then the order is that of the fields if what follows is below all their characters
(`Text.compare_append_below`), and the opposite one if it is above them (`Text.compare_append_above`).
-/
set_option autoImplicit false

namespace TableScope

/-! ## Orders in steps -/

section Orders

variable {α β : Type} [LinearOrder α] [LinearOrder β] {a b : α} {x y : β}

theorem compare_eq_then {o : Ordering} (hlt : a < b → x < y) (hgt : b < a → y < x)
    (heq : a = b → compare x y = o) : compare x y = (compare a b).then o := by
  rcases lt_trichotomy a b with h | h | h
  · rw [compare_lt_iff_lt.mpr h, compare_lt_iff_lt.mpr (hlt h)]
    rfl
  · rw [compare_eq_iff_eq.mpr h, heq h]
    rfl
  · rw [compare_gt_iff_gt.mpr h, compare_gt_iff_gt.mpr (hgt h)]
    rfl

theorem compare_congr (hlt : a < b → x < y) (hgt : b < a → y < x) (heq : a = b → x = y) :
    compare x y = compare a b := by
  rw [compare_eq_then hlt hgt fun h => compare_eq_iff_eq.mpr (heq h)]
  cases compare a b <;> rfl

end Orders

theorem Nat.compare_div_mod (k a b : Nat) :
    compare a b = (compare (a / k) (b / k)).then (compare (a % k) (b % k)) := by
  have ha := Nat.div_add_mod a k
  have hb := Nat.div_add_mod b k
  apply compare_eq_then
  · exact fun h => Nat.lt_of_div_lt_div h
  · exact fun h => Nat.lt_of_div_lt_div h
  · intro h
    rw [h] at ha
    apply compare_congr <;> omega

theorem Int.compare_ediv_emod {k : Int} (hk : 0 < k) (a b : Int) :
    compare a b = (compare (a / k) (b / k)).then (compare (a % k) (b % k)) := by
  have ha := Int.mul_ediv_add_emod a k
  have hb := Int.mul_ediv_add_emod b k
  apply compare_eq_then
  · exact fun h => lt_of_not_ge fun hle => absurd (Int.ediv_le_ediv hk hle) (not_le.mpr h)
  · exact fun h => lt_of_not_ge fun hle => absurd (Int.ediv_le_ediv hk hle) (not_le.mpr h)
  · intro h
    rw [h] at ha
    apply compare_congr <;> omega

theorem Int.compare_toNat {a b : Int} (ha : 0 ≤ a) (hb : 0 ≤ b) :
    compare a.toNat b.toNat = compare a b := by
  apply compare_congr <;> omega

/-! ## Texts after one another -/

namespace Text

variable {l r s t : List Char} {c : Char}

theorem compare_cons_cons (a b : Char) :
    compare (a :: s) (b :: t) = (Ord.compare a b).then (compare s t) := by
  rw [compare]
  congr 1
  exact compare_congr id id (congrArg Char.toNat)

theorem compare_cons_self (c : Char) : compare (c :: s) (c :: t) = compare s t := by
  rw [compare_cons_cons, compare_eq_iff_eq.mpr rfl]
  rfl

theorem compare_append_append (h : l.length = r.length) :
    compare (l ++ s) (r ++ t) = (compare l r).then (compare s t) := by
  induction l generalizing r with
  | nil =>
    rw [List.eq_nil_of_length_eq_zero h.symm]
    rfl
  | cons a l ih =>
    cases r with
    | nil => cases h
    | cons b r =>
      rw [List.cons_append, List.cons_append, compare_cons_cons, compare_cons_cons,
        ih (Nat.succ.inj h), Ordering.then_assoc]

theorem compare_append_below (hl : ∀ d ∈ l, ∀ c, s.head? = some c → c < d)
    (hr : ∀ d ∈ r, ∀ c, s.head? = some c → c < d) :
    compare (l ++ s) (r ++ s) = compare l r := by
  induction l generalizing r with
  | nil =>
    cases r with
    | nil => exact compare_self s
    | cons b r =>
      cases s with
      | nil => rfl
      | cons c s =>
        rw [List.nil_append, List.cons_append, compare_cons_cons,
          compare_lt_iff_lt.mpr (hr b List.mem_cons_self c rfl)]
        rfl
  | cons a l ih =>
    cases r with
    | nil =>
      cases s with
      | nil => rw [List.append_nil, List.append_nil]
      | cons c s =>
        rw [List.nil_append, List.cons_append, compare_cons_cons,
          compare_gt_iff_gt.mpr (hl a List.mem_cons_self c rfl)]
        rfl
    | cons b r =>
      rw [List.cons_append, List.cons_append, compare_cons_cons, compare_cons_cons,
        ih (fun d hd => hl d (List.mem_cons_of_mem _ hd))
          (fun d hd => hr d (List.mem_cons_of_mem _ hd))]

theorem compare_append_above (hl : ∀ d ∈ l, d < c) (hr : ∀ d ∈ r, d < c) :
    compare (l ++ c :: s) (r ++ c :: s) =
      if l <+: r ∨ r <+: l then (compare l r).swap else compare l r := by
  induction l generalizing r with
  | nil =>
    rw [if_pos (.inl List.nil_prefix)]
    cases r with
    | nil => exact compare_self (c :: s)
    | cons b r =>
      rw [List.nil_append, List.cons_append, compare_cons_cons,
        compare_gt_iff_gt.mpr (hr b List.mem_cons_self)]
      rfl
  | cons a l ih =>
    cases r with
    | nil =>
      rw [if_pos (.inr List.nil_prefix), List.nil_append, List.cons_append, compare_cons_cons,
        compare_lt_iff_lt.mpr (hl a List.mem_cons_self)]
      rfl
    | cons b r =>
      rw [List.cons_append, List.cons_append, compare_cons_cons, compare_cons_cons,
        ih (fun d hd => hl d (List.mem_cons_of_mem _ hd))
          (fun d hd => hr d (List.mem_cons_of_mem _ hd))]
      simp only [List.cons_prefix_cons]
      rcases lt_trichotomy a b with h | rfl | h
      · have hab : ¬ (a = b ∧ l <+: r ∨ b = a ∧ r <+: l) := by simp [h.ne, h.ne']
        rw [if_neg hab, compare_lt_iff_lt.mpr h]
        rfl
      · simp only [true_and, compare_eq_iff_eq.mpr rfl, Ordering.eq_then]
      · have hab : ¬ (a = b ∧ l <+: r ∨ b = a ∧ r <+: l) := by simp [h.ne, h.ne']
        rw [if_neg hab, compare_gt_iff_gt.mpr h]
        rfl

theorem zeros_lt {i : Nat} (ht : ∀ d ∈ t, '0' ≤ d) (hlength : t.length = i)
    (hne : t ≠ List.replicate i '0') : List.replicate i '0' < t := by
  induction t generalizing i with
  | nil =>
    subst hlength
    exact absurd rfl hne
  | cons d t ih =>
    subst hlength
    rw [List.length_cons, List.replicate_succ, List.cons_lt_cons_iff]
    rcases lt_or_eq_of_le (ht d List.mem_cons_self) with h | rfl
    · exact .inl h
    · refine .inr ⟨rfl, ih (fun d hd => ht d (List.mem_cons_of_mem _ hd)) rfl fun h => hne ?_⟩
      rw [List.length_cons, List.replicate_succ, ← h]

/-- Texts are ordered as they are with zeros up to a common length, where these are different. -/
theorem compare_of_zeros {i j : Nat} (hl : ∀ d ∈ l, '0' ≤ d) (hr : ∀ d ∈ r, '0' ≤ d)
    (hlength : l.length + i = r.length + j)
    (hne : l ++ List.replicate i '0' ≠ r ++ List.replicate j '0') :
    compare l r = compare (l ++ List.replicate i '0') (r ++ List.replicate j '0') := by
  have hzeros : ∀ k, ∀ d ∈ List.replicate k '0', '0' ≤ d := fun k d hd =>
    (List.eq_of_mem_replicate hd).ge
  induction l generalizing r with
  | nil =>
    have hlt : List.replicate i '0' < r ++ List.replicate j '0' := by
      refine zeros_lt (List.forall_mem_append.mpr ⟨hr, hzeros j⟩) ?_ (Ne.symm hne)
      rw [List.length_append, List.length_replicate, ← hlength, List.length_nil, Nat.zero_add]
    cases r with
    | nil =>
      rw [List.length_nil, Nat.zero_add, Nat.zero_add] at hlength
      exact absurd (congrArg (fun k => List.replicate k '0') hlength) hne
    | cons b r => exact (compare_eq_lt.mpr hlt).symm
  | cons a l ih =>
    cases r with
    | nil =>
      have hlt : List.replicate j '0' < a :: l ++ List.replicate i '0' := by
        refine zeros_lt (List.forall_mem_append.mpr ⟨hl, hzeros i⟩) ?_ hne
        rw [List.length_append, List.length_replicate, hlength, List.length_nil, Nat.zero_add]
      exact (compare_eq_gt.mpr hlt).symm
    | cons b r =>
      rw [List.cons_append, List.cons_append, compare_cons_cons, compare_cons_cons]
      by_cases hab : a = b
      · subst hab
        obtain ⟨-, hl⟩ := List.forall_mem_cons.mp hl
        obtain ⟨-, hr⟩ := List.forall_mem_cons.mp hr
        rw [ih hl hr (by simpa [Nat.add_right_comm] using hlength)
          fun h => hne (congrArg (a :: ·) h)]
      · rcases lt_or_gt_of_ne hab with h | h
        · rw [compare_lt_iff_lt.mpr h]
          rfl
        · rw [compare_gt_iff_gt.mpr h]
          rfl

end Text

/-! ## Digits -/

namespace Nat

variable {width a b : Nat}

theorem padded_one {n : Nat} (h : n < 10) : padded 1 n = [Nat.digitChar n] := by
  rw [padded, text, Nat.toDigits_of_lt_base h]
  rfl

theorem padded_succ (hw : 0 < width) (n : Nat) :
    padded (width + 1) n = padded width (n / 10) ++ [Nat.digitChar (n % 10)] := by
  obtain ⟨width, rfl⟩ := Nat.exists_eq_succ_of_ne_zero hw.ne'
  rw [padded, padded, text, text]
  by_cases h : n < 10
  · rw [Nat.div_eq_of_lt h, Nat.mod_eq_of_lt h, Nat.toDigits_of_lt_base h]
    exact (congrArg (· ++ [Nat.digitChar n]) List.replicate_succ'.symm).symm
  · rw [Nat.toDigits_of_base_le (by decide) (not_lt.mp h), List.length_append,
      List.length_singleton, Nat.add_sub_add_right, List.append_assoc]

theorem length_padded (hw : 0 < width) (h : a < 10 ^ width) : (padded width a).length = width := by
  induction width, hw using Nat.le_induction generalizing a with
  | base => rw [padded_one h]; rfl
  | succ width hw ih =>
    rw [padded_succ hw, List.length_append, List.length_singleton,
      ih (Nat.div_lt_of_lt_mul (by rwa [Nat.mul_comm, ← Nat.pow_succ]))]

theorem isDigit_of_mem_padded {c : Char} (hc : c ∈ padded width a) : c.isDigit = true := by
  rcases List.mem_append.mp hc with hc | hc
  · rw [List.eq_of_mem_replicate hc]
    rfl
  · exact Numeral.isDigit_of_mem_text hc

theorem padded_ne_nil : padded width a ≠ [] :=
  List.append_ne_nil_of_right_ne_nil _ Nat.toDigits_ne_nil

/-- Fields of one width are ordered as the numbers in them. -/
theorem compare_padded (hw : 0 < width) (ha : a < 10 ^ width) (hb : b < 10 ^ width) :
    Text.compare (padded width a) (padded width b) = compare a b := by
  induction width, hw using Nat.le_induction generalizing a b with
  | base =>
    rw [padded_one ha, padded_one hb, Text.compare, Nat.toNat_digitChar_of_lt_ten ha,
      Nat.toNat_digitChar_of_lt_ten hb, Text.compare, Ordering.then_eq]
    apply compare_congr <;> omega
  | succ width hw ih =>
    have hdiv : ∀ n : Nat, n < 10 ^ (width + 1) → n / 10 < 10 ^ width := fun n hn =>
      Nat.div_lt_of_lt_mul (by rwa [Nat.mul_comm, ← Nat.pow_succ])
    have hmod : ∀ n : Nat, n % 10 < 10 := fun n => Nat.mod_lt n (by decide)
    rw [padded_succ hw, padded_succ hw, Text.compare_append_append, ih (hdiv a ha) (hdiv b hb),
      Text.compare, Nat.toNat_digitChar_of_lt_ten (hmod a), Nat.toNat_digitChar_of_lt_ten (hmod b),
      Text.compare, Ordering.then_eq, Nat.compare_div_mod 10 a b]
    · congr 1
      apply compare_congr <;> omega
    · rw [length_padded hw (hdiv a ha), length_padded hw (hdiv b hb)]

theorem compare_padded_append (hw : 0 < width) (ha : a < 10 ^ width) (hb : b < 10 ^ width)
    (s t : List Char) :
    Text.compare (padded width a ++ s) (padded width b ++ t) =
      (compare a b).then (Text.compare s t) := by
  rw [Text.compare_append_append, compare_padded hw ha hb]
  rw [length_padded hw ha, length_padded hw hb]

/-- Zeros at the end of a field multiply the number in it. -/
theorem padded_add_zeros (hw : 0 < width) (n zeros : Nat) :
    padded (width + zeros) (n * 10 ^ zeros) = padded width n ++ List.replicate zeros '0' := by
  induction zeros with
  | zero => rw [Nat.pow_zero, Nat.mul_one, List.replicate_zero, List.append_nil, Nat.add_zero]
  | succ zeros ih =>
    rw [← Nat.add_assoc, padded_succ (Nat.add_pos_left hw zeros), Nat.pow_succ, ← Nat.mul_assoc,
      Nat.mul_div_cancel _ (by decide), Nat.mul_mod_left, ih, List.replicate_succ',
      List.append_assoc]
    rfl

end Nat

end TableScope
