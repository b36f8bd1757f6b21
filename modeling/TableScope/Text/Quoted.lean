import TableScope.Text.Extending
import TableScope.Text.Ignorable
import TableScope.Text.Unprintable

/-! # Quoted texts in messages

A quoted text stands between double quotes. Inside, the quote, the backslash and the common control
characters have short escapes, and every other character that would not be seen for itself is
written by its code point.
-/
set_option autoImplicit false

namespace TableScope.Text

/-- The escape of a character by its code point, in lower-case hexadecimal digits. -/
def codeEscape (c : Char) : List Char :=
  '\\' :: 'u' :: '\x7b' :: (Nat.toDigits 16 c.toNat ++ ['\x7d'])

/-- How a character is written inside quotes. -/
def quoteChar (c : Char) : List Char :=
  if c == '"' then ['\\', '"']
  else if c == '\\' then ['\\', '\\']
  else if c == '\n' then ['\\', 'n']
  else if c == '\r' then ['\\', 'r']
  else if c == '\t' then ['\\', 't']
  else if c == '\x00' then ['\\', '0']
  else if isExtending c || isIgnorable c || isUnprintable c then codeEscape c
  else [c]

/-- The text between double quotes. -/
def quote (s : List Char) : List Char := '"' :: (s.flatMap quoteChar ++ ['"'])

end TableScope.Text
