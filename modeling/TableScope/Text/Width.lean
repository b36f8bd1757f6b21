import TableScope.Text.CharWidth
import TableScope.Text.Emoji

/-! # Display width

The number of columns a text takes on a terminal. A character has a width of its own (`charWidth`),
and some characters are drawn as one with those that follow: a picture and its style, skin tone or
joined pictures, and the ligatures of some scripts. So a text is measured from its end, each
character in the `Context` of what follows it; the widths given back by `step` may be negative,
where a character takes the room of another one.
-/
set_option autoImplicit false

namespace TableScope.Text

/-! ## What follows a character -/

/-- The letters that end a ligature, after whatever of it has been met from the end. `joined` tells
that a zero-width joiner stands before the letter. -/
inductive Ligature
  | alef
  | lamed (joined : Bool)
  | buginese (joined : Bool)
  | bugineseVowel
  | tifinagh (joined : Bool)
  | tifinaghJoined
  | lisu
  | turkic (joined : Bool)
  | khmer
  | kiratVowelE
  | kiratVowelAi
deriving DecidableEq, Repr

/-- What follows a character, as far as its width depends on it. -/
inductive Follower
  | other
  | picture
  | skinTone
  /-- One letter of a flag, or several of them. -/
  | flagLetter (several : Bool)
  /-- A zero-width joiner and a picture. -/
  | joined
  /-- The mark of a keycap, then a joiner and a picture. -/
  | joinedKeycap
  /-- Some letters of flags, then a joiner and a picture. -/
  | joinedFlag (letters : Nat)
  /-- The end of a tag and the letters or digits of it met so far, then a joiner and a picture. -/
  | joinedTag (letters digits : Nat)
  | ligature (letter : Ligature)
deriving DecidableEq, Repr

/-- A request for how the character before it is drawn. -/
inductive Style
  | picture
  | text
  /-- As wide as an ideograph. -/
  | fullWidth
deriving DecidableEq, Repr

/-- What stands to the right of a character. -/
structure Context where
  style : Option Style
  follower : Follower
deriving DecidableEq, Repr

namespace Context

/-- Nothing that the character joins with. -/
def plain : Context := ⟨none, .other⟩

def of (follower : Follower) : Context := ⟨none, follower⟩

end Context

/-! ## Ligatures -/

/-- Characters inside a ligature that do not break it. -/
def ligatureTransparentRanges : CodeRanges := [
  (0x34f, 0x34f), (0x17b4, 0x17b5), (0x180b, 0x180d), (0x180f, 0x180f), (0xfe00, 0xfe0f),
  (0xe0100, 0xe01ef)]

/-- Arabic letters of the joining group alef. -/
def alefRanges : CodeRanges := [
  (0x622, 0x623), (0x625, 0x625), (0x627, 0x627), (0x671, 0x673), (0x675, 0x675), (0x773, 0x774),
  (0x870, 0x882)]

/-- Arabic letters of the joining group lam. -/
def lamRanges : CodeRanges :=
  [(0x644, 0x644), (0x6b5, 0x6b8), (0x76a, 0x76a), (0x8a6, 0x8a6), (0x8c7, 0x8c7)]

def tifinaghRanges : CodeRanges := [(0x2d31, 0x2d65), (0x2d6f, 0x2d6f)]

/-- Khmer letters that stand below the one before them after the sign coeng. -/
def khmerRanges : CodeRanges := [
  (0x1780, 0x1782), (0x1784, 0x1787), (0x1789, 0x178c), (0x178e, 0x1793), (0x1795, 0x1798),
  (0x179b, 0x179d), (0x17a0, 0x17a0), (0x17a2, 0x17a2), (0x17a7, 0x17a7), (0x17ab, 0x17ac),
  (0x17af, 0x17af)]

namespace Ligature

/-- The ligatures that a letter may end. -/
def endedBy? (c : Char) : Option Ligature :=
  let code := c.toNat
  if alefRanges.holds code then some .alef
  else if code == 0x5dc then some (.lamed false)
  else if code == 0x1a10 then some (.buginese false)
  else if tifinaghRanges.holds code then some (.tifinagh false)
  else if code == 0xa4fc || code == 0xa4fd then some .lisu
  else if code == 0x10c03 then some (.turkic false)
  else if khmerRanges.holds code then some .khmer
  else if code == 0x16d67 then some .kiratVowelE
  else if code == 0x16d68 then some .kiratVowelAi
  else none

/-- Whether a joiner and the characters of `ligatureTransparentRanges` may stand in the ligature.
Arabic letters join across other characters (`isTransparent`) and are parted by a joiner, and the
vowels of Kirat Rai are parted by everything. -/
def isOpen : Ligature → Bool
  | .alef | .kiratVowelE | .kiratVowelAi => false
  | _ => true

/-- Whether a request for a style may stand inside the ligature. -/
def admitsStyle : Ligature → Bool
  | .kiratVowelE | .kiratVowelAi => false
  | _ => true

/-- The ligature with a zero-width joiner before its end. -/
def withJoiner : Ligature → Ligature
  | .lamed _ => .lamed true
  | .buginese _ => .buginese true
  | .tifinagh _ => .tifinagh true
  | .turkic _ => .turkic true
  | ligature => ligature

/-- The width that a letter adds to a ligature that it belongs to, and what the letter makes of
it. -/
def extend? (ligature : Ligature) (c : Char) : Option (Int × Follower) :=
  let code := c.toNat
  match ligature with
  | .alef =>
    if lamRanges.holds code then some (0, .other)
    else if isTransparent c then some (0, .ligature .alef)
    else none
  | .lamed true => if code == 0x5d0 then some (0, .other) else none
  | .khmer => if code == 0x17d2 then some (-1, .other) else none
  | .buginese true => if code == 0x1a17 then some (0, .ligature .bugineseVowel) else none
  | .bugineseVowel => if code == 0x1a15 then some (0, .other) else none
  | .tifinagh joined =>
    if code == 0x2d7f then some (1, .ligature .tifinaghJoined)
    else if joined && tifinaghRanges.holds code then some (0, .other)
    else none
  | .tifinaghJoined => if tifinaghRanges.holds code then some (-1, .other) else none
  | .lisu => if 0xa4f8 ≤ code && code ≤ 0xa4fb then some (0, .other) else none
  | .turkic true => if code == 0x10c32 then some (0, .other) else none
  | .kiratVowelE =>
    if code == 0x16d63 || code == 0x16d69 then some (0, .other)
    else if code == 0x16d67 then some (0, .ligature .kiratVowelAi)
    else if code == 0x16d68 then some (1, .ligature .kiratVowelE)
    else none
  | .kiratVowelAi => if code == 0x16d63 then some (0, .other) else none
  | _ => none

end Ligature

/-! ## Pictures -/

def isFlagLetter (c : Char) : Bool := 0x1f1e6 ≤ c.toNat && c.toNat ≤ 0x1f1ff

def isSkinTone (c : Char) : Bool := 0x1f3fb ≤ c.toNat && c.toNat ≤ 0x1f3ff

/-- The sign that joins the characters on both sides of it. -/
def isJoiner (c : Char) : Bool := c.toNat == 0x200d

/-- The width of a character that is drawn as one with the picture after it, and what the two are to
the characters before. -/
def joinPicture? (c : Char) : Follower → Option (Int × Follower)
  | .skinTone =>
    if takesSkinTone c then some (0, .picture) else if isJoiner c then some (0, .joined) else none
  | .picture => if isJoiner c then some (0, .joined) else none
  | .flagLetter several =>
    if isFlagLetter c then some (1, .flagLetter true)
    else if isJoiner c && several then some (0, .joined)
    else none
  | .joined =>
    if c.toNat == 0x20e3 then some (0, .joinedKeycap)
    else if isFlagLetter c then some (1, .joinedFlag 1)
    else if isSkinTone c then some (0, .skinTone)
    else if c.toNat == 0xe007f then some (0, .joinedTag 0 0)
    else if isPicture c then some (0, .picture)
    else none
  | .joinedFlag letters =>
    if isFlagLetter c then some (if letters % 2 == 1 then -1 else 3, .joinedFlag (letters + 1))
    else if isJoiner c && letters != 1 then some (0, .joined)
    else none
  | .joinedTag letters digits =>
    if 0xe0061 ≤ c.toNat && c.toNat ≤ 0xe007a && digits == 0 && letters < 6 then
      some (0, .joinedTag (letters + 1) 0)
    else if 0xe0030 ≤ c.toNat && c.toNat ≤ 0xe0039 && digits < 3 && letters ≤ 4 then
      some (0, .joinedTag letters (digits + 1))
    else if c.toNat == 0x1f3f4 && (digits == 3 || (digits == 0 && 3 ≤ letters)) then
      some (0, .picture)
    else none
  | _ => none

/-! ## Texts -/

/-- The style that a variation selector asks for. -/
def Style.ofSelector? (c : Char) : Option Style :=
  if c.toNat == 0xfe0f then some .picture
  else if c.toNat == 0xfe0e then some .text
  else if c.toNat == 0xfe01 then some .fullWidth
  else none

/-- The quotation marks that come in the width of an ideograph. -/
def isQuotationMark (c : Char) : Bool :=
  c == '\u2018' || c == '\u2019' || c == '\u201c' || c == '\u201d'

/-- What a character is to the ones before it, whatever follows it. -/
def Context.ofChar (c : Char) : Context :=
  if c.toNat ≤ 0xa0 then .plain
  else if (Style.ofSelector? c).isSome then ⟨Style.ofSelector? c, .other⟩
  else if isSkinTone c then .of .skinTone
  else if isFlagLetter c then .of (.flagLetter false)
  else if isPicture c then .of .picture
  else match Ligature.endedBy? c with
    | some ligature => .of (.ligature ligature)
    | none => .plain

/-- The width of a character after which no style is requested. -/
def stepUnstyled (c : Char) (follower : Follower) : Int × Context :=
  let plain : Int × Context := (charWidth c, .ofChar c)
  if c.toNat ≤ 0xa0 then plain
  else match follower with
    | .ligature ligature =>
      if (Style.ofSelector? c).isSome && ligature.admitsStyle then
        (0, ⟨Style.ofSelector? c, follower⟩)
      else if isJoiner c && ligature.isOpen then (0, .of (.ligature ligature.withJoiner))
      else if ligatureTransparentRanges.holds c.toNat && ligature.isOpen then (0, .of follower)
      else match ligature.extend? c with
        | some (width, next) => (width, .of next)
        | none => plain
    | _ =>
      if c.toNat == 0xfe0f && (follower = .joined || follower = .joinedKeycap) then
        (0, ⟨some .picture, follower⟩)
      else match joinPicture? c follower with
        | some (width, next) => (width, .of next)
        | none => plain

/-- What is left of a context once its style has not been taken. -/
def Context.dropStyle (next : Context) : Follower :=
  match next.style, next.follower with
  | none, follower => follower
  | some _, .ligature ligature => .ligature ligature
  | some _, _ => .other

/-- The columns that a character adds to what follows it, and the context of the character before
it. -/
def step (c : Char) (next : Context) : Int × Context :=
  if next.style = some .picture && takesPictureStyle c then
    (if next.follower = .joined || next.follower = .joinedKeycap then 0 else 2, .of .picture)
  else if next.style = some .text && takesTextStyle c then (1, .plain)
  else if next.style = some .fullWidth && isQuotationMark c then (2, .plain)
  else stepUnstyled c next.dropStyle

/-- The columns of a text, and what it is to a character before it. -/
def measure : List Char → Int × Context
  | [] => (0, .plain)
  | c :: r =>
    let (width, next) := measure r
    let (own, context) := step c next
    (own + width, context)

def displayWidth (s : List Char) : Nat := (measure s).1.toNat

end TableScope.Text
