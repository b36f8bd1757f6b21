import TableScope.Output.Json
import TableScope.Proofs.Text.Parts

/-! # Reading JSON

A reader takes one value from the start of a text and leaves the rest. Blanks may stand around every
part. Numbers are kept as their numerals and members in their order. A string is read in two passes:
into code points first, where an escape stands for sixteen bits, and then into characters, where two
halves make one and a half alone makes none. `WellFormed.read_back` is the main statement: a value whose
numbers are numerals is read back from its text.
-/
set_option autoImplicit false

namespace TableScope.Json

/-! ## Numerals -/

def isDigits (s : List Char) : Bool := !s.isEmpty && s.all Char.isDigit

/-- Digits that do not start with a needless zero. -/
def isWhole (s : List Char) : Bool := isDigits s && (s == ['0'] || s.head? != some '0')

def isSigned : List Char → Bool
  | '+' :: r => isDigits r
  | '-' :: r => isDigits r
  | s => isDigits s

def isExponent : List Char → Bool
  | [] => true
  | c :: r => (c == 'e' || c == 'E') && isSigned r

/-- A fraction or nothing, and an exponent or nothing. -/
def isFraction : List Char → Bool
  | '.' :: r =>
    let (fraction, r) := r.span Char.isDigit
    isDigits fraction && isExponent r
  | r => isExponent r

def isUnsigned (s : List Char) : Bool :=
  let (whole, r) := s.span Char.isDigit
  isWhole whole && isFraction r

def isNumeral : List Char → Bool
  | '-' :: r => isUnsigned r
  | s => isUnsigned s

def isNumeralChar (c : Char) : Bool :=
  c.isDigit || c == '-' || c == '+' || c == '.' || c == 'e' || c == 'E'

def number? (s : List Char) : Option (Json × List Char) :=
  let (numeral, r) := s.span isNumeralChar
  if isNumeral numeral then some (number numeral, r) else none

/-! ## Strings -/

def hex? (c : Char) : Option Nat :=
  if '0' ≤ c ∧ c ≤ '9' then some (c.toNat - '0'.toNat)
  else if 'a' ≤ c ∧ c ≤ 'f' then some (c.toNat - 'a'.toNat + 10)
  else if 'A' ≤ c ∧ c ≤ 'F' then some (c.toNat - 'A'.toNat + 10)
  else none

def hexadecimal? (s : List Char) : Option Nat :=
  s.foldlM (fun n c => (hex? c).map fun digit => 16 * n + digit) 0

/-- What a character stands for after a backslash. -/
def escaped? : Char → Option Char
  | '"' => some '"'
  | '\\' => some '\\'
  | '/' => some '/'
  | 'b' => some '\x08'
  | 'f' => some '\x0c'
  | 'n' => some '\n'
  | 'r' => some '\r'
  | 't' => some '\t'
  | _ => none

/-- The code points up to the closing quote, and the rest. -/
def points : List Char → Option (List Nat × List Char)
  | '"' :: r => some ([], r)
  | '\\' :: 'u' :: a :: b :: c :: d :: r => do
    let point ← hexadecimal? [a, b, c, d]
    let (others, r) ← points r
    return (point :: others, r)
  | '\\' :: e :: r => do
    let c ← escaped? e
    let (others, r) ← points r
    return (c.toNat :: others, r)
  | c :: r => do
    if c = '\\' ∨ c.toNat < 0x20 then none
    let (others, r) ← points r
    return (c.toNat :: others, r)
  | [] => none

/-- The characters at some code points. -/
def characters : List Nat → Option (List Char)
  | [] => some []
  | point :: r =>
    if 0xd800 ≤ point ∧ point < 0xdc00 then
      match r with
      | low :: r =>
        if 0xdc00 ≤ low ∧ low < 0xe000 then
          (characters r).map (Char.ofNat (0x10000 + (point - 0xd800) * 0x400 + (low - 0xdc00)) :: ·)
        else none
      | [] => none
    else if 0xdc00 ≤ point ∧ point < 0xe000 then none
    else (characters r).map (Char.ofNat point :: ·)

/-- The characters up to the closing quote, and the rest. -/
def characters? (s : List Char) : Option (List Char × List Char) := do
  let (points, r) ← points s
  return (← characters points, r)

/-! ## Values -/

def isSpace (c : Char) : Bool := c == ' ' || c == '\t' || c == '\n' || c == '\r'

/-- What follows the character, if that comes next after blanks. -/
def symbol (c : Char) (s : List Char) : Option (List Char) :=
  match s.dropWhile isSpace with
  | [] => none
  | d :: r => if d = c then some r else none

section List

variable {α : Type} (element : List Char → Option (α × List Char)) (close : Char)

/-- Elements with commas between them, up to the closing character. -/
def elements : Nat → List Char → Option (List α × List Char)
  | 0, _ => none
  | fuel + 1, s => do
    let (x, r) ← element s
    match symbol close r with
    | some r => return ([x], r)
    | none =>
      let r ← symbol ',' r
      let (others, r) ← elements fuel r
      return (x :: others, r)

/-- Elements, or the closing character alone. -/
def list (fuel : Nat) (s : List Char) : Option (List α × List Char) :=
  match symbol close s with
  | some r => some ([], r)
  | none => elements element close fuel s

end List

def member (value : List Char → Option (Json × List Char)) (s : List Char) :
    Option ((List Char × Json) × List Char) := do
  let r ← symbol '"' s
  let (name, r) ← characters? r
  let r ← symbol ':' r
  let (value, r) ← value r
  return ((name, value), r)

def word? (s : List Char) : Option (Json × List Char) :=
  [("null".toList, null), ("true".toList, boolean true), ("false".toList, boolean false)].findSome?
    fun (word, value) => if word.isPrefixOf s then some (value, s.drop word.length) else none

/-- A value, and the rest. Values within values have less fuel. -/
def value : Nat → List Char → Option (Json × List Char)
  | 0, _ => none
  | fuel + 1, s =>
    match s.dropWhile isSpace with
    | [] => none
    | c :: r =>
      if c = '"' then (characters? r).map fun (s, r) => (string s, r)
      else if c = '[' then (list (value fuel) ']' fuel r).map fun (items, r) => (array items, r)
      else if c = '\x7b' then
        (list (member (value fuel)) '\x7d' fuel r).map fun (members, r) => (object members, r)
      else word? (c :: r) <|> number? (c :: r)

/-- The value that a text holds and nothing else. There are no more values within one another than
characters. -/
def read (s : List Char) : Option Json := do
  let (json, r) ← value (s.length + 1) s
  if r.all isSpace then some json else none

/-! ## Strings back -/

theorem hexadecimal?_control : ∀ n < 0x20,
    hexadecimal? ['0', '0', Nat.digitChar (n / 16), Nat.digitChar (n % 16)] = some n := by decide

theorem points_escaped {e c : Char} (h : escaped? e = some c) (s : List Char) :
    points ('\\' :: e :: s) = (points s).map fun (others, r) => (c.toNat :: others, r) := by
  have hu : e ≠ 'u' := by
    rintro rfl
    cases h
  rw [points, h]
  · cases points s <;> rfl
  · rintro a b c d r rfl
    exact absurd rfl hu

theorem points_plain {c : Char} (hq : c ≠ '"') (hb : c ≠ '\\') (hc : 0x20 ≤ c.toNat)
    (s : List Char) :
    points (c :: s) = (points s).map fun (others, r) => (c.toNat :: others, r) := by
  rw [points]
  · rw [if_neg (not_or.mpr ⟨hb, Nat.not_lt.mpr hc⟩)]
    cases points s <;> rfl
  · exact hq
  · rintro a b c d r rfl
    exact absurd rfl hb
  · rintro e r rfl
    exact absurd rfl hb

theorem escape_cases (c : Char) :
    (∃ e, escaped? e = some c ∧ escape c = ['\\', e]) ∨
      (c.toNat < 0x20 ∧ escape c =
        ['\\', 'u', '0', '0', Nat.digitChar (c.toNat / 16), Nat.digitChar (c.toNat % 16)]) ∨
      (c ≠ '"' ∧ c ≠ '\\' ∧ 0x20 ≤ c.toNat ∧ escape c = [c]) := by
  by_cases hs : c ∈ ['"', '\\', '\x08', '\x0c', '\n', '\r', '\t']
  · left
    simp only [List.mem_cons, List.not_mem_nil, or_false] at hs
    rcases hs with rfl | rfl | rfl | rfl | rfl | rfl | rfl
    all_goals exact ⟨_, rfl, rfl⟩
  · right
    simp only [List.mem_cons, List.not_mem_nil, or_false, not_or] at hs
    obtain ⟨hquote, hbackslash, hback, hform, hline, hreturn, htab⟩ := hs
    rw [escape, if_neg (beq_iff_eq.not.mpr hquote), if_neg (beq_iff_eq.not.mpr hbackslash),
      if_neg (beq_iff_eq.not.mpr hback), if_neg (beq_iff_eq.not.mpr hform),
      if_neg (beq_iff_eq.not.mpr hline), if_neg (beq_iff_eq.not.mpr hreturn),
      if_neg (beq_iff_eq.not.mpr htab)]
    split
    · next hc => exact .inl ⟨hc, rfl⟩
    · next hc => exact .inr ⟨hquote, hbackslash, Nat.not_lt.mp hc, rfl⟩

theorem points_escape (c : Char) (s : List Char) :
    points (escape c ++ s) = (points s).map fun (others, r) => (c.toNat :: others, r) := by
  rcases escape_cases c with ⟨e, he, htext⟩ | ⟨hc, htext⟩ | ⟨hq, hb, hc, htext⟩
  · rw [htext]
    exact points_escaped he s
  · rw [htext]
    simp only [List.cons_append, List.nil_append, points, hexadecimal?_control _ hc]
    cases points s <;> rfl
  · rw [htext]
    exact points_plain hq hb hc s

theorem points_flatMap_escape (s r : List Char) :
    points (s.flatMap escape ++ '"' :: r) = some (s.map Char.toNat, r) := by
  induction s with
  | nil => rfl
  | cons c s ih =>
    rw [List.flatMap_cons, List.append_assoc, points_escape, ih]
    rfl

theorem characters_toNat (s : List Char) : characters (s.map Char.toNat) = some s := by
  induction s with
  | nil => rfl
  | cons c s ih =>
    have hvalid : c.toNat < 0xd800 ∨ 0xdfff < c.toNat := by
      rcases c.valid with h | h
      · exact .inl h
      · exact .inr h.1
    rw [List.map_cons, characters.eq_def]
    dsimp only
    rw [if_neg (by omega), if_neg (by omega), ih, Option.map_some, Char.ofNat_toNat]

theorem characters?_quote (s r : List Char) :
    characters? (s.flatMap escape ++ '"' :: r) = some (s, r) := by
  rw [characters?, points_flatMap_escape]
  simp only [bind, Option.bind_some, characters_toNat, pure]

/-! ## Numerals back -/

theorem isNumeralChar_of_isDigit {c : Char} (h : c.isDigit = true) : isNumeralChar c = true := by
  rw [isNumeralChar, h]
  rfl

theorem isDigits_iff {s : List Char} :
    isDigits s = true ↔ s ≠ [] ∧ ∀ c ∈ s, c.isDigit = true := by
  rw [isDigits, Bool.and_eq_true, Bool.not_eq_true', List.isEmpty_eq_false_iff, List.all_eq_true]

theorem isNumeralChar_of_isDigits {s : List Char} (h : isDigits s = true) :
    ∀ c ∈ s, isNumeralChar c = true :=
  fun c hc => isNumeralChar_of_isDigit ((isDigits_iff.mp h).2 c hc)

theorem isNumeralChar_of_isSigned {s : List Char} (h : isSigned s = true) :
    ∀ c ∈ s, isNumeralChar c = true := by
  rw [isSigned.eq_def] at h
  split at h
  · exact List.forall_mem_cons.mpr ⟨rfl, isNumeralChar_of_isDigits h⟩
  · exact List.forall_mem_cons.mpr ⟨rfl, isNumeralChar_of_isDigits h⟩
  · exact isNumeralChar_of_isDigits h

theorem isNumeralChar_of_isExponent {s : List Char} (h : isExponent s = true) :
    ∀ c ∈ s, isNumeralChar c = true := by
  cases s with
  | nil => nofun
  | cons e s =>
    rw [isExponent, Bool.and_eq_true, Bool.or_eq_true, beq_iff_eq, beq_iff_eq] at h
    obtain ⟨he, hs⟩ := h
    exact List.forall_mem_cons.mpr
      ⟨by rcases he with rfl | rfl <;> rfl, isNumeralChar_of_isSigned hs⟩

theorem isNumeralChar_of_isFraction {s : List Char} (h : isFraction s = true) :
    ∀ c ∈ s, isNumeralChar c = true := by
  rw [isFraction.eq_def] at h
  split at h
  · next r =>
    split at h
    next fraction rest hspan =>
      rw [Bool.and_eq_true] at h
      rw [Text.append_of_span hspan]
      exact List.forall_mem_cons.mpr ⟨rfl, List.forall_mem_append.mpr
        ⟨isNumeralChar_of_isDigits h.1, isNumeralChar_of_isExponent h.2⟩⟩
  · exact isNumeralChar_of_isExponent h

theorem isNumeralChar_of_isUnsigned {s : List Char} (h : isUnsigned s = true) :
    s ≠ [] ∧ ∀ c ∈ s, isNumeralChar c = true := by
  rw [isUnsigned] at h
  split at h
  next whole rest hspan =>
    rw [isWhole, Bool.and_eq_true, Bool.and_eq_true] at h
    rw [Text.append_of_span hspan]
    exact ⟨List.append_ne_nil_of_left_ne_nil (isDigits_iff.mp h.1.1).1 _,
      List.forall_mem_append.mpr
        ⟨isNumeralChar_of_isDigits h.1.1, isNumeralChar_of_isFraction h.2⟩⟩

theorem isNumeralChar_of_isNumeral {s : List Char} (h : isNumeral s = true) :
    s ≠ [] ∧ ∀ c ∈ s, isNumeralChar c = true := by
  rw [isNumeral.eq_def] at h
  split at h
  · exact ⟨List.cons_ne_nil _ _,
      List.forall_mem_cons.mpr ⟨rfl, (isNumeralChar_of_isUnsigned h).2⟩⟩
  · exact isNumeralChar_of_isUnsigned h

/-- The text does not go on with a numeral. -/
def Stops (r : List Char) : Prop := ∀ c, r.head? = some c → isNumeralChar c = false

theorem number?_append {s r : List Char} (h : isNumeral s = true) (hr : Stops r) :
    number? (s ++ r) = some (number s, r) := by
  rw [number?, Text.span_append (isNumeralChar_of_isNumeral h).2 hr]
  exact if_pos h

/-! ## Lists back -/

theorem symbol_self {c : Char} (hc : isSpace c = false) (r : List Char) :
    symbol c (c :: r) = some r := by
  rw [symbol, List.dropWhile_cons_of_neg (Bool.eq_false_iff.mp hc)]
  exact if_pos rfl

theorem symbol_ne {c d : Char} (hd : isSpace d = false) (hne : d ≠ c) (r : List Char) :
    symbol c (d :: r) = none := by
  rw [symbol, List.dropWhile_cons_of_neg (Bool.eq_false_iff.mp hd)]
  exact if_neg hne

theorem stops_cons {c : Char} (hc : isNumeralChar c = false) (r : List Char) : Stops (c :: r) := by
  rintro d ⟨⟩
  exact hc

section List

variable {α : Type} {element : List Char → Option (α × List Char)} {text : α → List Char}
  {close : Char}

theorem intercalate_map_cons (text : α → List Char) (x y : α) (ys : List α) :
    [','].intercalate ((x :: y :: ys).map text) =
      text x ++ ',' :: [','].intercalate ((y :: ys).map text) := by
  have hne : (y :: ys).map text ≠ [] := List.map_eq_nil_iff.not.mpr (List.cons_ne_nil y ys)
  rw [List.map_cons, List.intercalate_cons_of_ne_nil hne, List.append_assoc]
  rfl

theorem closing_spec (hclose : close = ']' ∨ close = '\x7d') :
    isSpace close = false ∧ isNumeralChar close = false ∧ ',' ≠ close := by
  rcases hclose with rfl | rfl
  · exact ⟨rfl, rfl, by decide⟩
  · exact ⟨rfl, rfl, by decide⟩

theorem elements_intercalate (hclose : close = ']' ∨ close = '\x7d') (x : α) (xs : List α)
    (hread : ∀ y ∈ x :: xs, ∀ r, Stops r → element (text y ++ r) = some (y, r)) {fuel : Nat}
    (hf : xs.length < fuel) (r : List Char) :
    elements element close fuel ([','].intercalate ((x :: xs).map text) ++ close :: r) =
      some (x :: xs, r) := by
  obtain ⟨hspace, hstop, hcomma⟩ := closing_spec hclose
  induction xs generalizing x fuel with
  | nil =>
    obtain ⟨fuel, rfl⟩ := Nat.exists_eq_add_of_le' (Nat.one_le_of_lt hf)
    rw [List.map_singleton, List.intercalate_singleton, elements,
      hread x List.mem_cons_self _ (stops_cons hstop r)]
    simp only [bind, Option.bind_some, symbol_self hspace, pure]
  | cons y ys ih =>
    obtain ⟨fuel, rfl⟩ := Nat.exists_eq_add_of_le' (Nat.one_le_of_lt hf)
    obtain ⟨hx, hys⟩ := List.forall_mem_cons.mp hread
    have hrest := ih y hys (Nat.lt_of_succ_lt_succ hf)
    rw [intercalate_map_cons, List.append_assoc, List.cons_append, elements,
      hx _ (stops_cons rfl _)]
    have hblank : isSpace ',' = false := rfl
    simp only [bind, Option.bind_some, symbol_ne hblank hcomma, symbol_self hblank, hrest, pure]

theorem list_intercalate (hclose : close = ']' ∨ close = '\x7d') (xs : List α)
    (hread : ∀ x ∈ xs, ∀ r, Stops r → element (text x ++ r) = some (x, r))
    (hstart : ∀ x ∈ xs, ∀ r, symbol close (text x ++ r) = none) {fuel : Nat}
    (hf : xs.length ≤ fuel) (r : List Char) :
    list element close fuel ([','].intercalate (xs.map text) ++ close :: r) = some (xs, r) := by
  have hspace := (closing_spec hclose).1
  cases xs with
  | nil =>
    rw [list, List.map_nil, List.intercalate_nil, List.nil_append, symbol_self hspace]
  | cons x xs =>
    have hnone : symbol close ([','].intercalate ((x :: xs).map text) ++ close :: r) = none := by
      have hx := hstart x List.mem_cons_self
      cases xs with
      | nil =>
        rw [List.map_singleton, List.intercalate_singleton]
        exact hx _
      | cons y ys =>
        rw [intercalate_map_cons, List.append_assoc]
        exact hx _
    rw [list, hnone]
    exact elements_intercalate hclose x xs hread hf r

theorem length_le_intercalate (text : α → List Char) (xs : List α) :
    xs.length ≤ ([','].intercalate (xs.map text)).length + 1 ∧
      ∀ x ∈ xs, (text x).length ≤ ([','].intercalate (xs.map text)).length := by
  induction xs with
  | nil => exact ⟨Nat.zero_le _, nofun⟩
  | cons x xs ih =>
    obtain ⟨hlength, htext⟩ := ih
    cases xs with
    | nil => simp
    | cons y ys =>
      have hsum : ([','].intercalate ((x :: y :: ys).map text)).length =
          (text x).length + 1 + ([','].intercalate ((y :: ys).map text)).length := by
        rw [intercalate_map_cons, List.length_append, List.length_cons]
        omega
      rw [hsum, List.length_cons]
      refine ⟨by omega, List.forall_mem_cons.mpr ⟨by omega, ?_⟩⟩
      intro z hz
      have hle := htext z hz
      omega

end List

/-! ## Values back -/

/-- All numbers are numerals. -/
inductive WellFormed : Json → Prop
  | null : WellFormed null
  | boolean (value : Bool) : WellFormed (boolean value)
  | number {numeral : List Char} (h : isNumeral numeral = true) : WellFormed (number numeral)
  | string (value : List Char) : WellFormed (string value)
  | array {items : List Json} (h : ∀ item ∈ items, WellFormed item) : WellFormed (array items)
  | object {members : List (List Char × Json)} (h : ∀ entry ∈ members, WellFormed entry.2) :
    WellFormed (object members)

theorem renderItems_eq (items : List Json) :
    renderItems items = [','].intercalate (items.map render) := by
  induction items with
  | nil => rfl
  | cons item others ih =>
    cases others with
    | nil => rw [renderItems, List.map_singleton, List.intercalate_singleton]
    | cons next others =>
      rw [renderItems, ih, intercalate_map_cons]
      exact List.cons_ne_nil _ _

def memberText (entry : List Char × Json) : List Char := quote entry.1 ++ ':' :: render entry.2

theorem renderMembers_eq (members : List (List Char × Json)) :
    renderMembers members = [','].intercalate (members.map memberText) := by
  induction members with
  | nil => rfl
  | cons entry others ih =>
    cases others with
    | nil => rw [renderMembers, List.map_singleton, List.intercalate_singleton]; rfl
    | cons next others =>
      rw [renderMembers, ih, intercalate_map_cons, memberText, List.append_assoc, List.cons_append]
      exact List.cons_ne_nil _ _

theorem member_text {read : List Char → Option (Json × List Char)} (entry : List Char × Json)
    {r : List Char} (hread : read (entry.2.render ++ r) = some (entry.2, r)) :
    member read (memberText entry ++ r) = some (entry, r) := by
  have htext : memberText entry ++ r =
      '"' :: (entry.1.flatMap escape ++ '"' :: ':' :: (entry.2.render ++ r)) := by
    simp [memberText, quote]
  rw [htext, member, symbol_self rfl]
  have hcolon : isSpace ':' = false := rfl
  simp only [bind, Option.bind_some, characters?_quote, symbol_self hcolon, hread, pure]

theorem value_cons {c : Char} (hc : isSpace c = false) (fuel : Nat) (r : List Char) :
    value (fuel + 1) (c :: r) =
      if c = '"' then (characters? r).map fun (s, r) => (string s, r)
      else if c = '[' then (list (value fuel) ']' fuel r).map fun (items, r) => (array items, r)
      else if c = '\x7b' then
        (list (member (value fuel)) '\x7d' fuel r).map fun (members, r) => (object members, r)
      else word? (c :: r) <|> number? (c :: r) := by
  rw [value, List.dropWhile_cons_of_neg (Bool.eq_false_iff.mp hc)]

theorem ne_of_isNumeralChar {c d : Char} (hc : isNumeralChar c = true)
    (hd : isNumeralChar d = false) : c ≠ d := by
  rintro rfl
  rw [hc] at hd
  cases hd

theorem isSpace_of_isNumeralChar {c : Char} (hc : isNumeralChar c = true) : isSpace c = false := by
  simp only [isSpace, Bool.or_eq_false_iff, beq_eq_false_iff_ne]
  exact ⟨⟨⟨ne_of_isNumeralChar hc rfl, ne_of_isNumeralChar hc rfl⟩, ne_of_isNumeralChar hc rfl⟩,
    ne_of_isNumeralChar hc rfl⟩

theorem word?_eq_none {c : Char} (hc : isNumeralChar c = true) (r : List Char) :
    word? (c :: r) = none := by
  have hstart : ∀ (d : Char) (word : List Char), isNumeralChar d = false →
      (d :: word).isPrefixOf (c :: r) = false := by
    intro d word hd
    rw [List.isPrefixOf, beq_false_of_ne (ne_of_isNumeralChar hc hd).symm, Bool.false_and]
  have hn := hstart 'n' ['u', 'l', 'l'] rfl
  have ht := hstart 't' ['r', 'u', 'e'] rfl
  have hf := hstart 'f' ['a', 'l', 's', 'e'] rfl
  simp [word?, List.findSome?, hn, ht, hf]

theorem WellFormed.render_head {j : Json} (h : j.WellFormed) :
    ∃ c s, j.render = c :: s ∧ isSpace c = false ∧ c ≠ ']' := by
  cases h with
  | null => exact ⟨'n', _, rfl, rfl, by decide⟩
  | boolean value =>
    cases value with
    | true => exact ⟨'t', _, rfl, rfl, by decide⟩
    | false => exact ⟨'f', _, rfl, rfl, by decide⟩
  | @number numeral h =>
    obtain ⟨hne, hchars⟩ := isNumeralChar_of_isNumeral h
    obtain ⟨c, s, rfl⟩ := List.exists_cons_of_ne_nil hne
    have hc := hchars c List.mem_cons_self
    exact ⟨c, s, rfl, isSpace_of_isNumeralChar hc, ne_of_isNumeralChar hc rfl⟩
  | string value => exact ⟨'"', _, rfl, rfl, by decide⟩
  | array h => exact ⟨'[', _, rfl, rfl, by decide⟩
  | object h => exact ⟨'\x7b', _, rfl, rfl, by decide⟩

theorem value_array {items : List Json} (h : ∀ item ∈ items, item.WellFormed) {fuel : Nat}
    (hread : ∀ item ∈ items, ∀ r, Stops r → value fuel (item.render ++ r) = some (item, r))
    (hf : items.length ≤ fuel) (r : List Char) :
    value (fuel + 1) ((array items).render ++ r) = some (array items, r) := by
  have hstart : ∀ item ∈ items, ∀ r, symbol ']' (item.render ++ r) = none := by
    intro item hm r
    obtain ⟨c, s, htext, hspace, hne⟩ := (h item hm).render_head
    rw [htext]
    exact symbol_ne hspace hne _
  rw [render, renderItems_eq, List.cons_append, List.append_assoc, List.singleton_append,
    value_cons rfl, if_neg (by decide), if_pos rfl,
    list_intercalate (.inl rfl) items hread hstart hf]
  rfl

theorem value_object {members : List (List Char × Json)} {fuel : Nat}
    (hread : ∀ entry ∈ members, ∀ r, Stops r →
      value fuel (entry.2.render ++ r) = some (entry.2, r))
    (hf : members.length ≤ fuel) (r : List Char) :
    value (fuel + 1) ((object members).render ++ r) = some (object members, r) := by
  have hmember : ∀ entry ∈ members, ∀ r, Stops r →
      member (value fuel) (memberText entry ++ r) = some (entry, r) :=
    fun entry hm r hr => member_text entry (hread entry hm r hr)
  have hstart : ∀ entry ∈ members, ∀ r, symbol '\x7d' (memberText entry ++ r) = none :=
    fun entry _ r => symbol_ne rfl (by decide) _
  rw [render, renderMembers_eq, List.cons_append, List.append_assoc, List.singleton_append,
    value_cons rfl, if_neg (by decide), if_neg (by decide), if_pos rfl,
    list_intercalate (.inr rfl) members hmember hstart hf]
  rfl

theorem WellFormed.value_render {j : Json} (h : j.WellFormed) : ∀ (fuel : Nat) (r : List Char),
    j.render.length < fuel → Stops r → value fuel (j.render ++ r) = some (j, r) := by
  intro fuel r hf hr
  obtain ⟨fuel, rfl⟩ := Nat.exists_eq_add_of_le' (Nat.one_le_of_lt hf)
  induction h generalizing fuel r with
  | null => rfl
  | boolean value => cases value <;> rfl
  | @number numeral h =>
    have hread := number?_append h hr
    obtain ⟨hne, hchars⟩ := isNumeralChar_of_isNumeral h
    obtain ⟨c, s, rfl⟩ := List.exists_cons_of_ne_nil hne
    have hc := hchars c List.mem_cons_self
    have hne : ∀ d, isNumeralChar d = false → c ≠ d := fun d hd => ne_of_isNumeralChar hc hd
    rw [render, List.cons_append, value_cons (isSpace_of_isNumeralChar hc), if_neg (hne _ rfl),
      if_neg (hne _ rfl), if_neg (hne _ rfl), word?_eq_none hc]
    exact hread
  | string value =>
    rw [render, quote, List.cons_append, List.append_assoc, value_cons rfl, if_pos rfl]
    exact congrArg _ (characters?_quote value r)
  | @array items h ih =>
    -- an item is shorter than the array, so that the fuel that is left is enough for it
    rw [render, renderItems_eq, List.length_cons, List.length_append, List.length_singleton] at hf
    obtain ⟨hcount, hlength⟩ := length_le_intercalate render items
    obtain ⟨rest, rfl⟩ := Nat.exists_eq_add_of_le' (show 1 ≤ fuel by omega)
    refine value_array h (fun item hm r hr => ih item hm r hr rest ?_) (by omega) r
    have hle := hlength item hm
    omega
  | @object members h ih =>
    rw [render, renderMembers_eq, List.length_cons, List.length_append, List.length_singleton] at hf
    obtain ⟨hcount, hlength⟩ := length_le_intercalate memberText members
    obtain ⟨rest, rfl⟩ := Nat.exists_eq_add_of_le' (show 1 ≤ fuel by omega)
    refine value_object (fun entry hm r hr => ih entry hm r hr rest ?_) (by omega) r
    have hle := hlength entry hm
    rw [memberText, List.length_append, List.length_cons] at hle
    omega

theorem WellFormed.read_back {j : Json} (h : j.WellFormed) : read j.render = some j := by
  have hvalue := h.value_render (j.render.length + 1) [] (Nat.lt_succ_self _) nofun
  rw [List.append_nil] at hvalue
  rw [read, hvalue]
  rfl

example : (read "\x7b \"a\" : [1e5,\n\"\\u00e9\\ud83d\\ude00\"] \x7d".toList).map render =
    some "\x7b\"a\":[1e5,\"é😀\"]\x7d".toList := by decide +kernel

end TableScope.Json
