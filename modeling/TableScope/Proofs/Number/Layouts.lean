import TableScope.Proofs.Number.Rounding
import TableScope.Proofs.Text.Parts

/-! # Reading numbers back from their texts

Every layout writes digits, a point only with digits after it, and an exponent or none
(`Numeral.Parts`), and these parts spell the decimal that was set (`Parts.Spells`). With the shortest
decimal of a number its text is therefore read as that number (`Layout.decimal?_text`).
-/
set_option autoImplicit false

namespace TableScope

namespace Numeral

/-- An unsigned decimal numeral in parts. An exponent may show a plus sign. -/
structure Parts where
  whole : List Char
  fraction : List Char
  exponent : Option (Bool × Int)

namespace Parts

variable (p : Parts)

def fractionText : List Char := if p.fraction = [] then [] else '.' :: p.fraction

def exponentText : List Char :=
  match p.exponent with
  | none => []
  | some (plus, power) => 'e' :: ((if plus && 0 ≤ power then ['+'] else []) ++ Int.text power)

def text : List Char := p.whole ++ p.fractionText ++ p.exponentText

def power : Int := (p.exponent.map Prod.snd).getD 0

def decimal : Decimal :=
  ⟨Nat.ofDigitChars 10 (p.whole ++ p.fraction) 0, p.power - p.fraction.length⟩

structure WellFormed : Prop where
  whole_ne : p.whole ≠ []
  isDigit : ∀ c ∈ p.whole ++ p.fraction, c.isDigit = true

/-- The numeral has the value of the decimal, and no more zeros at its start than that. -/
structure Spells (d : Decimal) : Prop extends p.WellFormed where
  value_eq : p.decimal.value = d.value
  leading : (d.coefficient = 0 → d.exponent = 0) → p.whole = ['0'] ∨ p.whole.head? ≠ some '0'

end Parts

/-! ## Reading parts -/

theorem head?_text (n : Nat) (hn : n ≠ 0) : (Nat.text n).head? ≠ some '0' := by
  induction n using Nat.strongRecOn with
  | ind n ih =>
    rw [Nat.text]
    by_cases hlt : n < 10
    · rw [Nat.toDigits_of_lt_base hlt]
      simpa using hn
    · rw [Nat.toDigits_of_base_le (by decide) (not_lt.mp hlt),
        List.head?_append_of_ne_nil _ Nat.toDigits_ne_nil]
      exact ih (n / 10) (by omega) (by omega)

theorem integer?_plus (plus : Bool) (i : Int) :
    integer? ((if plus && 0 ≤ i then ['+'] else []) ++ Int.text i) = some i := by
  split
  · next h =>
    have hi : 0 ≤ i := by simpa using (Bool.and_eq_true_iff.mp h).2
    have htext : Int.text i = Nat.text i.natAbs := by rw [Int.text, if_neg (not_lt.mpr hi)]
    have habs : (i.natAbs : Int) = i := by omega
    rw [integer?, htext, List.singleton_append, signed]
    simp only [digits?_text]
    exact congrArg some habs
  · exact integer?_text i

namespace Parts

variable {p : Parts}

theorem exponent?_text (p : Parts) : exponent? p.exponentText = some p.power := by
  rw [exponentText, power]
  split
  · next h => rw [h]; rfl
  · next plus i h =>
    rw [h]
    exact integer?_plus plus i

theorem head?_exponentText (p : Parts) (c : Char) (h : p.exponentText.head? = some c) : c = 'e' := by
  rw [exponentText] at h
  split at h
  · cases h
  · exact (Option.some.inj h).symm

theorem isDigit_head?_exponentText (p : Parts) (c : Char) (h : p.exponentText.head? = some c) :
    c.isDigit = false := by
  rw [p.head?_exponentText c h]
  rfl

theorem WellFormed.unsigned?_text (h : p.WellFormed) : unsigned? p.text = some p.decimal := by
  have hwhole : ∀ c ∈ p.whole, c.isDigit = true := fun c hc => h.isDigit c (List.mem_append_left _ hc)
  have hfraction : ∀ c ∈ p.fraction, c.isDigit = true :=
    fun c hc => h.isDigit c (List.mem_append_right _ hc)
  have hexponent := p.isDigit_head?_exponentText
  have hdigits := digits?_eq_some (List.append_ne_nil_of_left_ne_nil h.whole_ne p.fraction) h.isDigit
  have hread := exponent?_text p
  have hhead := p.head?_exponentText
  rw [text, fractionText, decimal]
  generalize p.exponentText = exponent at hexponent hread hhead
  by_cases hf : p.fraction = []
  · have hbind : unsigned? (p.whole ++ exponent) = (digits? (p.whole ++ [])).bind fun n =>
        (exponent? exponent).map fun e => ⟨n, e - ([] : List Char).length⟩ := by
      rw [unsigned?, Text.span_append hwhole hexponent]
      cases exponent with
      | nil => rfl
      | cons c r =>
        rw [hhead c rfl]
        rfl
    rw [hf] at hdigits ⊢
    rw [if_pos rfl, List.append_nil, hbind, hdigits, hread, List.append_nil]
    rfl
  · have hpoint : ∀ c, ('.' :: (p.fraction ++ exponent)).head? = some c → c.isDigit = false := by
      intro c hc
      cases hc
      rfl
    rw [if_neg hf, List.append_assoc, List.cons_append, unsigned?, Text.span_append hwhole hpoint]
    simp only [Text.span_append hfraction hexponent, hdigits, hread, Option.bind_some, Option.map_some]

end Parts

end Numeral

/-! ## Setting decimals -/

namespace Decimal

variable (d : Decimal)

theorem isDigit_of_mem_digits {c : Char} (h : c ∈ d.digits) : c.isDigit = true :=
  Numeral.isDigit_of_mem_text h

theorem digits_ne_nil : d.digits ≠ [] := Nat.toDigits_ne_nil

theorem ofDigitChars_digits : Nat.ofDigitChars 10 d.digits 0 = d.coefficient :=
  Nat.ofDigitChars_ten_toDigits

theorem digits_leading : d.coefficient = 0 ∧ d.digits = ['0'] ∨ d.digits.head? ≠ some '0' := by
  by_cases hz : d.coefficient = 0
  · exact .inl ⟨hz, by rw [digits, hz]; rfl⟩
  · exact .inr (Numeral.head?_text d.coefficient hz)

end Decimal

namespace Numeral.Parts

variable {d : Decimal} {c : Char}

theorem isDigit_of_mem_zeros {n : Nat} (h : c ∈ List.replicate n '0') : c.isDigit = true := by
  rw [List.eq_of_mem_replicate h]
  rfl

/-- Zeros after the digits, some of them after a point. -/
theorem spells_integral (he : 0 ≤ d.exponent) (zeros : Nat) :
    Spells ⟨d.digits ++ List.replicate d.exponent.toNat '0', List.replicate zeros '0', none⟩ d where
  whole_ne := List.append_ne_nil_of_left_ne_nil d.digits_ne_nil _
  isDigit := by
    intro c hc
    simp only [List.mem_append] at hc
    rcases hc with (hc | hc) | hc
    · exact d.isDigit_of_mem_digits hc
    · exact isDigit_of_mem_zeros hc
    · exact isDigit_of_mem_zeros hc
  value_eq := by
    obtain ⟨n, hn⟩ := Int.eq_ofNat_of_zero_le he
    have hten : (10 : ℚ) ^ zeros ≠ 0 := pow_ne_zero _ (by decide)
    simp only [decimal, power, Decimal.value, Nat.ofDigitChars_append, d.ofDigitChars_digits,
      Nat.ofDigitChars_replicate_zero, hn, Int.toNat_natCast, List.length_replicate, Option.map_none,
      Option.getD_none, zero_sub, zpow_neg, zpow_natCast]
    push_cast
    field_simp
  leading := by
    intro hz
    rcases d.digits_leading with ⟨hc, hd⟩ | hd
    · left
      simp only [hd, hz hc, Int.toNat_zero, List.replicate_zero, List.append_nil]
    · right
      simp only [List.head?_append_of_ne_nil _ d.digits_ne_nil]
      exact hd

/-- A point between the digits or after them. -/
theorem spells_cut (cut : Nat) (exponent : Option (Bool × Int)) (hcut : 0 < cut)
    (he : power ⟨d.digits.take cut, d.digits.drop cut, exponent⟩ - (d.digits.length - cut : ℕ) =
      d.exponent) :
    Spells ⟨d.digits.take cut, d.digits.drop cut, exponent⟩ d where
  whole_ne := by
    simp only [ne_eq, List.take_eq_nil_iff, not_or]
    exact ⟨hcut.ne', d.digits_ne_nil⟩
  isDigit := by
    simp only [List.take_append_drop]
    exact fun c hc => d.isDigit_of_mem_digits hc
  value_eq := by
    simp only [decimal, Decimal.value, List.take_append_drop, d.ofDigitChars_digits, List.length_drop,
      he]
  leading := by
    intro _
    rcases d.digits_leading with ⟨-, hd⟩ | hd
    · left
      simp only [hd]
      exact List.take_of_length_le hcut
    · right
      rwa [List.head?_take, if_neg hcut.ne']

/-- Zeros between the point and the digits. -/
theorem spells_fraction (zeros : Nat) (he : -((zeros + d.digits.length : ℕ) : Int) = d.exponent) :
    Spells ⟨['0'], List.replicate zeros '0' ++ d.digits, none⟩ d where
  whole_ne := List.cons_ne_nil _ _
  isDigit := by
    intro c hc
    simp only [List.mem_append, List.mem_singleton] at hc
    rcases hc with rfl | hc | hc
    · rfl
    · exact isDigit_of_mem_zeros hc
    · exact d.isDigit_of_mem_digits hc
  value_eq := by
    have hzero : Nat.ofDigitChars 10 ['0'] 0 = 0 := rfl
    simp only [decimal, power, Decimal.value, Nat.ofDigitChars_append, hzero,
      Nat.ofDigitChars_replicate_zero, Nat.mul_zero, d.ofDigitChars_digits, List.length_append,
      List.length_replicate, Option.map_none, Option.getD_none, zero_sub, he]
  leading := fun _ => .inl rfl

end Numeral.Parts

namespace Layout

open Numeral

theorem setPositional_parts (d : Decimal) (pointZero : Bool) :
    ∃ p : Parts, setPositional d.digits d.exponent pointZero = p.text ∧ p.Spells d := by
  have hpos : 0 < d.digits.length := List.length_pos_of_ne_nil d.digits_ne_nil
  rw [setPositional]
  split
  · next he =>
    refine ⟨_, ?_, Parts.spells_integral he (if pointZero then 1 else 0)⟩
    cases pointZero with
    | true => simp [Parts.text, Parts.fractionText, Parts.exponentText]
    | false => simp [Parts.text, Parts.fractionText, Parts.exponentText]
  · next he =>
    dsimp only
    split
    · next hplaces =>
      refine ⟨_, ?_, Parts.spells_cut (d.digits.length - (-d.exponent).toNat) none (by omega) ?_⟩
      · have hdrop : d.digits.drop (d.digits.length - (-d.exponent).toNat) ≠ [] := by
          rw [ne_eq, List.drop_eq_nil_iff]
          omega
        simp [Parts.text, Parts.fractionText, Parts.exponentText, hdrop]
      · rw [Parts.power, Option.map_none, Option.getD_none]
        omega
    · next hplaces =>
      refine ⟨_, ?_, Parts.spells_fraction ((-d.exponent).toNat - d.digits.length) (by omega)⟩
      simp [Parts.text, Parts.fractionText, Parts.exponentText, d.digits_ne_nil]

theorem setScientific_parts (d : Decimal) (plus : Bool) :
    ∃ p : Parts, setScientific d.digits (d.digits.length - 1 + d.exponent) plus = p.text ∧
      p.Spells d := by
  have hpos : 0 < d.digits.length := List.length_pos_of_ne_nil d.digits_ne_nil
  refine ⟨_, ?_, Parts.spells_cut 1 (some (plus, d.digits.length - 1 + d.exponent)) Nat.one_pos ?_⟩
  · simp [setScientific, Parts.text, Parts.fractionText, Parts.exponentText, List.isEmpty_iff]
  · rw [Parts.power, Option.map_some, Option.getD_some]
    omega

theorem set_parts (layout : Layout) (d : Decimal) :
    ∃ p : Parts, layout.set d = p.text ∧ p.Spells d := by
  rw [set]
  split
  · exact setPositional_parts d _
  · exact setScientific_parts d _

theorem signed_parts (negative : Bool) {p : Parts} (h : p.WellFormed) :
    signed ((if negative then ['-'] else []) ++ p.text) = (negative, p.text) := by
  cases negative with
  | true => rfl
  | false =>
    obtain ⟨c, whole, hw⟩ := List.exists_cons_of_ne_nil h.whole_ne
    have hc : c.isDigit = true := h.isDigit c (by rw [hw]; exact List.mem_cons_self)
    rw [Parts.text, hw]
    exact signed_of_isDigit hc _

variable {f : BinaryFormat}

theorem text_parts (layout : Layout) (negative : Bool) {place : Fin (f.top + 1)}
    (hp : place.val ≠ f.top) : ∃ p : Parts,
      layout.text (.number negative place) = (if negative then ['-'] else []) ++ p.text ∧
        p.Spells (Decimal.shortest f layout.tie place) := by
  obtain ⟨p, hset, hspells⟩ := layout.set_parts (Decimal.shortest f layout.tie place)
  refine ⟨p, ?_, hspells⟩
  simp only [text, if_neg hp, hset]

/-- The text of a finite number is read as its sign and a decimal to which it is the nearest. -/
theorem decimal?_text (he : 1 ≤ f.exponentBits) (layout : Layout) (negative : Bool)
    {place : Fin (f.top + 1)} (hp : place.val ≠ f.top) : ∃ d,
      Numeral.decimal? (layout.text (.number negative place)) = some (negative, d) ∧
        f.Rounds d.value place := by
  obtain ⟨p, htext, hspells⟩ := layout.text_parts negative hp
  have hplace : (p.decimal.place f) = place :=
    (Decimal.place_congr he hspells.value_eq).trans
      (Decimal.place_shortest he layout.tie (Nat.le_of_lt_succ place.isLt))
  refine ⟨p.decimal, ?_, hplace ▸ Decimal.rounds_place he p.decimal⟩
  rw [htext, decimal?, signed_parts negative hspells.toWellFormed]
  simp only [hspells.toWellFormed.unsigned?_text, Option.map_some]

end Layout

end TableScope
