import Mathlib.Data.List.Basic
import Mathlib.Tactic.IntervalCases
import TableScope.Number.Layout
import TableScope.Number.Numeral

/-! # Numerals of integers

The decimal digits of an integer are read back as that integer (`integer?_text`), and they are the
digits that the standard library writes (`Int.toList_toString`).
-/
set_option autoImplicit false

namespace TableScope

theorem Int.toList_toString (i : Int) : (toString i).toList = Int.text i := by
  cases i with
  | ofNat n => exact Nat.toList_repr
  | negSucc n =>
    rw [Int.text, if_pos (Int.negSucc_lt_zero n)]
    exact (String.toList_append).trans (congrArg ('-' :: ·) Nat.toList_repr)

namespace Numeral

def digitChars : List Char := ['0', '1', '2', '3', '4', '5', '6', '7', '8', '9']

theorem mem_digitChars {c : Char} (h : c.isDigit = true) : c ∈ digitChars := by
  have hl : 48 ≤ c.toNat ∧ c.toNat ≤ 57 := by
    simpa [Char.isDigit, UInt32.le_iff_toNat_le] using h
  obtain ⟨h48, h57⟩ := hl
  rw [← Char.ofNat_toNat c]
  interval_cases c.toNat <;> decide

/-- What holds of each of the ten digits holds of every digit. -/
theorem forall_isDigit {p : Char → Prop} (h : digitChars.Forall p) {c : Char}
    (hc : c.isDigit = true) : p c :=
  List.forall_iff_forall_mem.mp h c (mem_digitChars hc)

theorem isDigit_of_mem_text {n : Nat} {c : Char} (h : c ∈ Nat.text n) : c.isDigit = true :=
  Nat.isDigit_of_mem_toDigits (by decide) (by decide) h

theorem mem_text {i : Int} {c : Char} (h : c ∈ Int.text i) : c ∈ '-' :: digitChars := by
  rw [Int.text] at h
  split at h
  · rcases List.mem_cons.mp h with rfl | h
    · exact List.mem_cons_self
    · exact List.mem_cons_of_mem _ (mem_digitChars (isDigit_of_mem_text h))
  · exact List.mem_cons_of_mem _ (mem_digitChars (isDigit_of_mem_text h))

theorem digits?_eq_some {s : List Char} (hs : s ≠ []) (hd : ∀ c ∈ s, c.isDigit = true) :
    digits? s = some (Nat.ofDigitChars 10 s 0) := by
  rw [digits?, if_pos]
  rw [Bool.and_eq_true, Bool.not_eq_true', List.isEmpty_eq_false_iff, List.all_eq_true]
  exact ⟨hs, hd⟩

theorem digits?_text (n : Nat) : digits? (Nat.text n) = some n := by
  have h := digits?_eq_some (s := Nat.text n) Nat.toDigits_ne_nil fun c => isDigit_of_mem_text
  rwa [Nat.text, Nat.ofDigitChars_ten_toDigits] at h

theorem signed_of_isDigit {c : Char} (h : c.isDigit = true) (s : List Char) :
    signed (c :: s) = (false, c :: s) := by
  unfold signed
  split
  · next heq => cases heq; cases h
  · next heq => cases heq; cases h
  · rfl

theorem signed_text (n : Nat) : signed (Nat.text n) = (false, Nat.text n) := by
  cases hn : Nat.text n with
  | nil => exact absurd hn Nat.toDigits_ne_nil
  | cons c s => exact signed_of_isDigit (isDigit_of_mem_text (hn ▸ List.mem_cons_self)) s

theorem integer?_text (i : Int) : integer? (Int.text i) = some i := by
  rw [Int.text]
  split
  · next hi =>
    have habs : -(i.natAbs : Int) = i := by omega
    rw [integer?, signed]
    simp only [digits?_text]
    exact congrArg some habs
  · next hi =>
    have habs : (i.natAbs : Int) = i := by omega
    rw [integer?, signed_text]
    simp only [digits?_text]
    exact congrArg some habs

theorem integer?_natText (n : Nat) : integer? (Nat.text n) = some n := by
  have h := integer?_text n
  rwa [Int.text, if_neg (not_lt.mpr (Int.natCast_nonneg n)), Int.natAbs_natCast] at h

end Numeral

end TableScope
