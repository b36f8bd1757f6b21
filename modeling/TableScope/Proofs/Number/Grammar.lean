import TableScope.Number.Numeral
import TableScope.Proofs.Number.Numerals
import TableScope.Proofs.Text.Parts

/-! # The grammar of numerals

Integers are an optional sign and digits (`IsInteger`). Decimals have digits around a point, at
least one on some side of it, and an optional exponent with a sign of its own (`IsDecimal`). The
readers of numerals accept these texts and no others, and read what the digits spell
(`integer?_eq_some_iff`, `decimal?_eq_some_iff`).
-/
set_option autoImplicit false

namespace TableScope.Numeral

/-- The sign of a numeral, which may be left out. -/
inductive Sign
  | none
  | plus
  | minus

namespace Sign

def text : Sign → List Char
  | none => []
  | plus => ['+']
  | minus => ['-']

def isMinus : Sign → Bool
  | minus => true
  | _ => false

def apply (sign : Sign) (n : Nat) : Int := if sign.isMinus then -(n : Int) else n

end Sign

/-- One decimal digit or more. -/
structure IsDigits (s : List Char) : Prop where
  ne_nil : s ≠ []
  isDigit : ∀ c ∈ s, c.isDigit = true

/-- A sign and digits, and the number that they spell. -/
inductive IsInteger : List Char → Int → Prop
  | intro (sign : Sign) (digits : List Char) (h : IsDigits digits) :
    IsInteger (sign.text ++ digits) (sign.apply (Nat.ofDigitChars 10 digits 0))

/-- An exponent; where there is none it is 0. -/
inductive IsExponent : List Char → Int → Prop
  | none : IsExponent [] 0
  | lower (s : List Char) (power : Int) (h : IsInteger s power) : IsExponent ('e' :: s) power
  | upper (s : List Char) (power : Int) (h : IsInteger s power) : IsExponent ('E' :: s) power

/-- A decimal with a point: whether it is negative, and its magnitude. -/
inductive IsDecimal : List Char → Bool → Decimal → Prop
  | intro (sign : Sign) (whole fraction exponent : List Char) (power : Int)
    (hd : IsDigits (whole ++ fraction)) (he : IsExponent exponent power) :
    IsDecimal (sign.text ++ (whole ++ '.' :: (fraction ++ exponent))) sign.isMinus
      ⟨Nat.ofDigitChars 10 (whole ++ fraction) 0, power - fraction.length⟩

/-! ## Characters of numerals -/

variable {s r whole fraction exponent : List Char} {c : Char} {n : Nat} {i power : Int}
  {negative : Bool} {d : Decimal}

theorem ne_of_isDigit (h : c.isDigit = true) : c ≠ '+' ∧ c ≠ '-' ∧ c ≠ '.' :=
  forall_isDigit (p := fun c => c ≠ '+' ∧ c ≠ '-' ∧ c ≠ '.') (by decide) h

theorem IsInteger.exists_digit (h : IsInteger s i) : ∃ c ∈ s, c.isDigit = true := by
  obtain ⟨sign, digits, hd⟩ := h
  obtain ⟨c, hc⟩ := List.exists_mem_of_ne_nil digits hd.ne_nil
  exact ⟨c, List.mem_append_right _ hc, hd.isDigit c hc⟩

theorem IsDecimal.exists_digit (h : IsDecimal s negative d) : ∃ c ∈ s, c.isDigit = true := by
  obtain ⟨sign, whole, fraction, exponent, power, hd, he⟩ := h
  obtain ⟨c, hc⟩ := List.exists_mem_of_ne_nil _ hd.ne_nil
  refine ⟨c, ?_, hd.isDigit c hc⟩
  rcases List.mem_append.mp hc with hc | hc <;> simp [hc]

theorem Sign.point_not_mem (sign : Sign) : '.' ∉ sign.text := by
  cases sign <;> decide

theorem IsInteger.point_not_mem (h : IsInteger s i) : '.' ∉ s := by
  obtain ⟨sign, digits, hd⟩ := h
  intro hm
  rcases List.mem_append.mp hm with hm | hm
  · exact sign.point_not_mem hm
  · exact (ne_of_isDigit (hd.isDigit _ hm)).2.2 rfl

theorem IsDecimal.point_mem (h : IsDecimal s negative d) : '.' ∈ s := by
  obtain ⟨sign, whole, fraction, exponent, power, hd, he⟩ := h
  simp

theorem IsExponent.point_not_mem (h : IsExponent s power) : '.' ∉ s := by
  cases h with
  | none => exact List.not_mem_nil
  | lower s power h => simpa using h.point_not_mem
  | upper s power h => simpa using h.point_not_mem

theorem IsExponent.isDigit_head? (h : IsExponent s power) (c : Char) (hc : s.head? = some c) :
    c.isDigit = false := by
  cases h <;> cases hc <;> rfl

/-! ## Signs and digits -/

theorem digits?_eq_some_iff : digits? s = some n ↔ IsDigits s ∧ n = Nat.ofDigitChars 10 s 0 := by
  constructor
  · intro h
    rw [digits?] at h
    split at h
    · next hc =>
      rw [Bool.and_eq_true, Bool.not_eq_true', List.isEmpty_eq_false_iff, List.all_eq_true] at hc
      exact ⟨⟨hc.1, hc.2⟩, (Option.some.inj h).symm⟩
    · cases h
  · rintro ⟨hd, rfl⟩
    exact digits?_eq_some hd.ne_nil hd.isDigit

theorem exists_sign (s : List Char) :
    ∃ sign : Sign, s = sign.text ++ (signed s).2 ∧ (signed s).1 = sign.isMinus := by
  unfold signed
  split
  · exact ⟨.minus, rfl, rfl⟩
  · exact ⟨.plus, rfl, rfl⟩
  · exact ⟨.none, rfl, rfl⟩

theorem signed_append (sign : Sign) (h : ∀ c, r.head? = some c → c ≠ '+' ∧ c ≠ '-') :
    signed (sign.text ++ r) = (sign.isMinus, r) := by
  cases sign with
  | plus => rfl
  | minus => rfl
  | none =>
    rw [Sign.text, List.nil_append]
    unfold signed
    split
    · exact absurd rfl (h '-' rfl).2
    · exact absurd rfl (h '+' rfl).1
    · rfl

theorem integer?_eq (s : List Char) : integer? s =
    (digits? (signed s).2).map fun n : Nat => if (signed s).1 then -(n : Int) else n := by
  obtain ⟨⟨negative, r⟩, hs⟩ : ∃ parts, signed s = parts := ⟨_, rfl⟩
  rw [integer?, hs]
  dsimp only
  cases digits? r <;> rfl

theorem integer?_eq_some_iff : integer? s = some i ↔ IsInteger s i := by
  rw [integer?_eq, Option.map_eq_some_iff]
  constructor
  · rintro ⟨n, hn, rfl⟩
    obtain ⟨sign, hs, hminus⟩ := exists_sign s
    obtain ⟨hd, rfl⟩ := digits?_eq_some_iff.mp hn
    have hinteger := IsInteger.intro sign (signed s).2 hd
    rwa [← hs, Sign.apply, ← hminus] at hinteger
  · rintro ⟨sign, digits, hd⟩
    have hhead : ∀ c, digits.head? = some c → c ≠ '+' ∧ c ≠ '-' := fun c hc =>
      have hne := ne_of_isDigit (hd.isDigit c (List.mem_of_head? hc))
      ⟨hne.1, hne.2.1⟩
    rw [signed_append sign hhead]
    exact ⟨_, digits?_eq_some_iff.mpr ⟨hd, rfl⟩, rfl⟩

theorem IsInteger.unique {j : Int} (hi : IsInteger s i) (hj : IsInteger s j) : i = j :=
  Option.some.inj ((integer?_eq_some_iff.mpr hi).symm.trans (integer?_eq_some_iff.mpr hj))

theorem exponent?_eq_some_iff : exponent? s = some power ↔ IsExponent s power := by
  constructor
  · intro h
    cases s with
    | nil => cases h; exact .none
    | cons c s =>
      rw [exponent?] at h
      split at h
      · next hc =>
        have hi := integer?_eq_some_iff.mp h
        rcases Bool.or_eq_true_iff.mp hc with hc | hc
        · rw [beq_iff_eq.mp hc]
          exact .lower s power hi
        · rw [beq_iff_eq.mp hc]
          exact .upper s power hi
      · cases h
  · intro h
    cases h with
    | none => rfl
    | lower s power h => exact integer?_eq_some_iff.mpr h
    | upper s power h => exact integer?_eq_some_iff.mpr h

/-! ## Decimals -/

theorem unsigned?_point (hw : ∀ c ∈ whole, c.isDigit = true) (r : List Char) :
    unsigned? (whole ++ '.' :: r) =
      (digits? (whole ++ (r.span Char.isDigit).1)).bind fun n =>
        (exponent? (r.span Char.isDigit).2).map fun e => ⟨n, e - (r.span Char.isDigit).1.length⟩ := by
  have hpoint : ∀ c, ('.' :: r).head? = some c → c.isDigit = false := by
    rintro c ⟨⟩
    rfl
  rw [unsigned?, Text.span_append hw hpoint]
  rfl

/-- A text that is read and has no point after its first digits has none at all. -/
theorem point_not_mem_of_unsigned? (hw : ∀ c ∈ whole, c.isDigit = true)
    (hr : ∀ c, r.head? = some c → c.isDigit = false ∧ c ≠ '.')
    (h : unsigned? (whole ++ r) = some d) : '.' ∉ whole ++ r := by
  rw [unsigned?, Text.span_append hw fun c hc => (hr c hc).1] at h
  simp only at h
  split at h
  · exact absurd rfl (hr '.' rfl).2
  · obtain ⟨n, -, h⟩ := Option.bind_eq_some_iff.mp h
    obtain ⟨power, hpower, -⟩ := Option.map_eq_some_iff.mp h
    rw [List.mem_append, not_or]
    exact ⟨fun hm => (ne_of_isDigit (hw _ hm)).2.2 rfl,
      (exponent?_eq_some_iff.mp hpower).point_not_mem⟩

theorem unsigned?_eq_some_iff (hp : '.' ∈ s) : unsigned? s = some d ↔
    ∃ whole fraction exponent power, s = whole ++ '.' :: (fraction ++ exponent) ∧
      IsDigits (whole ++ fraction) ∧ IsExponent exponent power ∧
      d = ⟨Nat.ofDigitChars 10 (whole ++ fraction) 0, power - fraction.length⟩ := by
  constructor
  · intro h
    obtain ⟨whole, r, rfl, hw, hr⟩ := Text.exists_span Char.isDigit s
    by_cases hpoint : r.head? = some '.'
    · obtain ⟨r, rfl⟩ := List.head?_eq_some_iff.mp hpoint
      obtain ⟨⟨fraction, exponent⟩, hspan⟩ : ∃ parts, r.span Char.isDigit = parts := ⟨_, rfl⟩
      rw [unsigned?_point hw, hspan] at h
      obtain ⟨n, hn, h⟩ := Option.bind_eq_some_iff.mp h
      obtain ⟨power, hpower, rfl⟩ := Option.map_eq_some_iff.mp h
      obtain ⟨hd, rfl⟩ := digits?_eq_some_iff.mp hn
      exact ⟨whole, fraction, exponent, power, by rw [Text.append_of_span hspan], hd,
        exponent?_eq_some_iff.mp hpower, rfl⟩
    · -- the rest would be read as an exponent, which has no point
      have hhead : ∀ c, r.head? = some c → c.isDigit = false ∧ c ≠ '.' :=
        fun c hc => ⟨hr c hc, fun he => hpoint (he ▸ hc)⟩
      exact absurd hp (point_not_mem_of_unsigned? hw hhead h)
  · rintro ⟨whole, fraction, exponent, power, rfl, hd, he, rfl⟩
    have hw : ∀ c ∈ whole, c.isDigit = true :=
      fun c hc => hd.isDigit c (List.mem_append_left fraction hc)
    have hf : ∀ c ∈ fraction, c.isDigit = true :=
      fun c hc => hd.isDigit c (List.mem_append_right whole hc)
    rw [unsigned?_point hw, Text.span_append hf he.isDigit_head?,
      digits?_eq_some_iff.mpr ⟨hd, rfl⟩, exponent?_eq_some_iff.mpr he]
    rfl

theorem decimal?_eq_some_iff (hp : '.' ∈ s) :
    decimal? s = some (negative, d) ↔ IsDecimal s negative d := by
  rw [decimal?, Option.map_eq_some_iff]
  constructor
  · rintro ⟨d, hunsigned, heq⟩
    cases heq
    obtain ⟨sign, hs, hminus⟩ := exists_sign s
    have hrest : '.' ∈ (signed s).2 := by
      rw [hs] at hp
      exact (List.mem_append.mp hp).resolve_left sign.point_not_mem
    obtain ⟨whole, fraction, exponent, power, hr, hd, he, rfl⟩ :=
      (unsigned?_eq_some_iff hrest).mp hunsigned
    rw [hminus, hs, hr]
    exact .intro sign whole fraction exponent power hd he
  · rintro ⟨sign, whole, fraction, exponent, power, hd, he⟩
    have hhead : ∀ c, (whole ++ '.' :: (fraction ++ exponent)).head? = some c →
        c ≠ '+' ∧ c ≠ '-' := by
      cases whole with
      | nil => rintro c ⟨⟩; decide
      | cons d whole =>
        rintro c ⟨⟩
        have hne := ne_of_isDigit (hd.isDigit d List.mem_cons_self)
        exact ⟨hne.1, hne.2.1⟩
    rw [signed_append sign hhead]
    exact ⟨_, (unsigned?_eq_some_iff (by simp)).mpr
      ⟨whole, fraction, exponent, power, rfl, hd, he, rfl⟩, rfl⟩

end TableScope.Numeral
