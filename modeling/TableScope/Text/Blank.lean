/-! # Blank characters and trimming

A character is blank if it has the Unicode property `White_Space`. `trim` takes the longest blank
ends off a text: what is left neither starts nor ends with a blank (`Trimmed`), and a text that has
no blank ends is left alone (`trim_of_trimmed`).
-/
set_option autoImplicit false

namespace TableScope.Text

/-- The Unicode property `White_Space`. -/
def isBlank (c : Char) : Bool :=
  ('\x09' ≤ c && c ≤ '\x0d') || c == ' ' || c == '\u0085' || c == '\u00a0' || c == '\u1680' ||
    ('\u2000' ≤ c && c ≤ '\u200a') || c == '\u2028' || c == '\u2029' || c == '\u202f' ||
    c == '\u205f' || c == '\u3000'

def trimStart (s : List Char) : List Char := s.dropWhile isBlank

def trimEnd (s : List Char) : List Char := (trimStart s.reverse).reverse

def trim (s : List Char) : List Char := trimEnd (trimStart s)

def Trimmed (s : List Char) : Prop :=
  (∀ c, s.head? = some c → isBlank c = false) ∧ (∀ c, s.getLast? = some c → isBlank c = false)

/-! ## Trimming -/

theorem trimStart_of_head (s : List Char) (h : ∀ c, s.head? = some c → isBlank c = false) :
    trimStart s = s := by
  cases s with
  | nil => rfl
  | cons c r => simp [trimStart, h c rfl]

theorem trim_of_trimmed (s : List Char) (h : Trimmed s) : trim s = s := by
  rw [trim, trimStart_of_head s h.1, trimEnd, trimStart_of_head, List.reverse_reverse]
  intro c hc
  exact h.2 c (by simpa using hc)

end TableScope.Text
