import TableScope.Text.Extending
import TableScope.Text.Ignorable
import TableScope.Text.Wide

/-! # Widths of characters

The columns of a terminal that a character takes by itself. Most take one; wide characters take two,
and characters that are drawn together with others, or not at all, take none. Some of those without
a column are transparent: letters on both sides of them still join.
-/
set_option autoImplicit false

namespace TableScope.Text

/-- Vowels and final consonants of composed Hangul syllables. -/
def syllablePartRanges : CodeRanges := [(0x1160, 0x11ff), (0xd7b0, 0xd7c6), (0xd7cb, 0xd7fb)]

/-- Marks that are drawn over or under the characters next to them. -/
def enclosingMarkRanges : CodeRanges :=
  [(0x605, 0x605), (0x70f, 0x70f), (0x890, 0x891), (0x8e2, 0x8e2), (0xa8fa, 0xa8fa)]

/-- Letters with the `Grapheme_Cluster_Break` value `Prepend`, which are drawn with the letter after
them. -/
def prependedLetterRanges : CodeRanges := [
  (0xd4e, 0xd4e), (0x111c2, 0x111c3), (0x113d1, 0x113d1), (0x1193f, 0x1193f), (0x11941, 0x11941),
  (0x11a3a, 0x11a3a), (0x11a84, 0x11a89), (0x11d46, 0x11d46), (0x11f02, 0x11f02)]

/-- Whether the character takes no column. The filler U+115F stands for a consonant and the joiner
U+2D7F has a form of its own. -/
def isZeroWidth (c : Char) : Bool :=
  c.toNat != 0x115f && c.toNat != 0x2d7f &&
    (isExtending c || isIgnorable c || syllablePartRanges.holds c.toNat ||
      enclosingMarkRanges.holds c.toNat || prependedLetterRanges.holds c.toNat)

/-- The columns that a character takes by itself; control characters take one. -/
def charWidth (c : Char) : Nat :=
  if c.toNat ≤ 0xa0 then 1
  else if c.toNat == 0x17a4 then 2
  else if c.toNat == 0x17d8 then 3
  else if isZeroWidth c then 0
  else if isWide c then 2
  else 1

/-- Code points without a column whose `Joining_Type` is not `Transparent`. -/
def opaqueRanges : CodeRanges := [
  (0x605, 0x605), (0x890, 0x891), (0x8e2, 0x8e2), (0x9be, 0x9be), (0x9d7, 0x9d7), (0xb3e, 0xb3e),
  (0xb57, 0xb57), (0xbbe, 0xbbe), (0xbd7, 0xbd7), (0xcc0, 0xcc0), (0xcc2, 0xcc2), (0xcc7, 0xcc8),
  (0xcca, 0xccb), (0xcd5, 0xcd6), (0xd3e, 0xd3e), (0xd4e, 0xd4e), (0xd57, 0xd57), (0xdcf, 0xdcf),
  (0xddf, 0xddf), (0x1160, 0x11ff), (0x1715, 0x1715), (0x1734, 0x1734), (0x180e, 0x180e),
  (0x1b35, 0x1b35), (0x1b3b, 0x1b3b), (0x1b3d, 0x1b3d), (0x1b43, 0x1b44), (0x1baa, 0x1baa),
  (0x1bf2, 0x1bf3), (0x200c, 0x200d), (0x2065, 0x2069), (0x302e, 0x302f), (0x3164, 0x3164),
  (0xa8fa, 0xa8fa), (0xa953, 0xa953), (0xa9c0, 0xa9c0), (0xd7b0, 0xd7c6), (0xd7cb, 0xd7fb),
  (0xffa0, 0xffa0), (0xfff0, 0xfff8), (0x111c0, 0x111c0), (0x111c2, 0x111c3), (0x11235, 0x11235),
  (0x1133e, 0x1133e), (0x1134d, 0x1134d), (0x11357, 0x11357), (0x113b8, 0x113b8),
  (0x113c2, 0x113c2), (0x113c5, 0x113c5), (0x113c7, 0x113c9), (0x113cf, 0x113cf),
  (0x113d1, 0x113d1), (0x114b0, 0x114b0), (0x114bd, 0x114bd), (0x115af, 0x115af),
  (0x116b6, 0x116b6), (0x11930, 0x11930), (0x1193d, 0x1193d), (0x1193f, 0x1193f),
  (0x11941, 0x11941), (0x11a3a, 0x11a3a), (0x11a84, 0x11a89), (0x11d46, 0x11d46),
  (0x11f02, 0x11f02), (0x11f41, 0x11f41), (0x16ff0, 0x16ff1), (0x1d165, 0x1d166),
  (0x1d16d, 0x1d172), (0xe0000, 0xe0000), (0xe0002, 0xe001f), (0xe0080, 0xe00ff),
  (0xe01f0, 0xe0fff)]

/-- Whether letters join across the character. -/
def isTransparent (c : Char) : Bool := charWidth c == 0 && !opaqueRanges.holds c.toNat

end TableScope.Text
