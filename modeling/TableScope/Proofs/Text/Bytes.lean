import TableScope.Proofs.Text.Fields

/-! # The order of bytes and the order of characters

A character is encoded by a first byte, which counts the bytes that follow it and holds the upper digits
of the character's number in base 64, and by one byte for each further digit. A character of more bytes
has the greater number and the greater first byte, and of characters of equally many bytes the numbers
are compared digit by digit (`Utf8.compare_encode_append`). So texts stand in the same order by their
bytes as by their characters (`Text.compare_bytes`).
-/
set_option autoImplicit false

namespace TableScope

namespace Utf8

/-- How many bytes follow the first one of a character. -/
def following (n : Nat) : Nat :=
  if n ≤ 0x7f then 0 else if n ≤ 0x7ff then 1 else if n ≤ 0xffff then 2 else 3

/-- What the first byte adds to its digits. -/
def mark : Nat → Nat
  | 0 => 0
  | 1 => 0xc0
  | 2 => 0xe0
  | _ => 0xf0

def first (n : Nat) : Nat := n / 64 ^ following n + mark (following n)

/-- The last digits of a number in base 64, as the bytes that follow a first one. -/
def digits : (count n : Nat) → List Nat
  | 0, _ => []
  | count + 1, n => (n / 64 ^ count % 64 + 0x80) :: digits count n

def encode (n : Nat) : List Nat := first n :: digits (following n) n

variable {a b : Nat}

theorem compare_add (a b k : Nat) : compare (a + k) (b + k) = compare a b :=
  compare_congr (Nat.add_lt_add_right · k) (Nat.add_lt_add_right · k) (congrArg (· + k))

theorem compare_digits_append (count a b : Nat) (s t : List Nat) :
    compare (digits count a ++ s) (digits count b ++ t) =
      (compare (a % 64 ^ count) (b % 64 ^ count)).then (compare s t) := by
  induction count with
  | zero => rw [Nat.pow_zero, Nat.mod_one, Nat.mod_one]; rfl
  | succ count ih =>
    have hsplit := Nat.compare_div_mod (64 ^ count) (a % 64 ^ (count + 1)) (b % 64 ^ (count + 1))
    rw [Nat.pow_succ, Nat.mod_mul_right_div_self, Nat.mod_mul_right_div_self,
      Nat.mod_mul_right_mod, Nat.mod_mul_right_mod] at hsplit
    rw [digits, digits, List.cons_append, List.cons_append, List.compare_cons_cons, ih, compare_add,
      Nat.pow_succ, hsplit, Ordering.then_assoc]

theorem lt_of_following_lt (h : following a < following b) : a < b := by
  unfold following at h
  split_ifs at h <;> omega

theorem first_lt (h : following a < following b) : first a < first b := by
  unfold first following at *
  split_ifs at h ⊢ <;> simp only [mark] <;> omega

/-- The first character decides, if the bytes of others follow it. -/
theorem compare_encode_append (a b : Nat) (s t : List Nat) :
    compare (encode a ++ s) (encode b ++ t) = (compare a b).then (compare s t) := by
  rw [encode, encode, List.cons_append, List.cons_append, List.compare_cons_cons]
  rcases lt_trichotomy (following a) (following b) with h | h | h
  · rw [compare_lt_iff_lt.mpr (first_lt h), compare_lt_iff_lt.mpr (lt_of_following_lt h)]
    rfl
  · rw [first, first, ← h, compare_add, compare_digits_append, ← Ordering.then_assoc,
      ← Nat.compare_div_mod]
  · rw [compare_gt_iff_gt.mpr (first_lt h), compare_gt_iff_gt.mpr (lt_of_following_lt h)]
    rfl

/-- The bytes of a character have the numbers that its own number is encoded by. -/
theorem map_toNat_utf8EncodeChar (c : Char) :
    (String.utf8EncodeChar c).map UInt8.toNat = encode c.toNat := by
  have hvalid : c.val.toNat < 0x110000 := by
    rcases c.valid with h | h <;> omega
  change (String.utf8EncodeChar c).map UInt8.toNat = encode c.val.toNat
  rw [String.utf8EncodeChar, encode, first]
  generalize c.val.toNat = n at *
  simp only [following]
  split_ifs <;> simp [digits, mark] <;> omega

end Utf8

namespace Text

def bytes (s : String) : List UInt8 := s.toUTF8.data.toList

def scalars (s : String) : List Nat := s.toList.map Char.toNat

theorem bytes_eq (s : String) : bytes s = s.toList.flatMap String.utf8EncodeChar := by
  change s.toByteArray.data.toList = _
  rw [← String.utf8Encode_toList, List.utf8Encode]
  simp

theorem map_toNat_bytes (s : String) :
    (bytes s).map UInt8.toNat = s.toList.flatMap fun c => Utf8.encode c.toNat := by
  rw [bytes_eq, List.map_flatMap]
  simp only [Utf8.map_toNat_utf8EncodeChar]

theorem compare_toNat (a b : UInt8) : Ord.compare a.toNat b.toNat = Ord.compare a b := by
  change compareOfLessAndEq _ _ = compareOfLessAndEq _ _
  simp only [compareOfLessAndEq, UInt8.lt_iff_toNat_lt, UInt8.toNat_inj]

theorem compare_map_toNat (s t : List UInt8) :
    Ord.compare (s.map UInt8.toNat) (t.map UInt8.toNat) = Ord.compare s t := by
  induction s generalizing t with
  | nil => cases t <;> rfl
  | cons a s ih =>
    cases t with
    | nil => rfl
    | cons b t =>
      rw [List.map_cons, List.map_cons, List.compare_cons_cons, List.compare_cons_cons, ih,
        compare_toNat]

theorem compare_flatMap_encode (s t : List Char) :
    Ord.compare (s.flatMap fun c => Utf8.encode c.toNat) (t.flatMap fun c => Utf8.encode c.toNat) =
      compare s t := by
  induction s generalizing t with
  | nil => cases t <;> rfl
  | cons a s ih =>
    cases t with
    | nil => rfl
    | cons b t => rw [List.flatMap_cons, List.flatMap_cons, Utf8.compare_encode_append, ih, compare]

/-- Texts are ordered by their characters as by their bytes. -/
theorem compare_bytes (s t : String) :
    compare s.toList t.toList = Ord.compare (bytes s) (bytes t) := by
  rw [← compare_map_toNat, map_toNat_bytes, map_toNat_bytes, compare_flatMap_encode]

theorem compare_scalars (s t : String) :
    compare s.toList t.toList = Ord.compare (scalars s) (scalars t) := by
  rw [scalars, scalars]
  generalize s.toList = s
  generalize t.toList = t
  induction s generalizing t with
  | nil => cases t <;> rfl
  | cons a s ih =>
    cases t with
    | nil => rfl
    | cons b t => rw [List.map_cons, List.map_cons, List.compare_cons_cons, compare, ih]

end Text

end TableScope
