import RowQuery.Text.CharWidth

/-!
# Letters that join

In some scripts a letter and what stands before it are shown as one sign: an alef behind a lam, a
tone letter behind another, a letter below another. `Ligature` is the letter at the end of such a
sign, with what has been seen of the sign so far, and `Ligature.extend?` looks at the character
before it.
-/

namespace RowQuery.Text

/-! ## Classes of characters -/

/-- The characters without width that keep the letters around them from joining, as closed ranges of
code points. -/
def separatingRanges : List (Nat × Nat) :=
  [(0x605, 0x605), (0x890, 0x891), (0x8E2, 0x8E2), (0x9BE, 0x9BE), (0x9D7, 0x9D7), (0xB3E, 0xB3E),
   (0xB57, 0xB57), (0xBBE, 0xBBE), (0xBD7, 0xBD7), (0xCC0, 0xCC0), (0xCC2, 0xCC2), (0xCC7, 0xCC8),
   (0xCCA, 0xCCB), (0xCD5, 0xCD6), (0xD3E, 0xD3E), (0xD4E, 0xD4E), (0xD57, 0xD57), (0xDCF, 0xDCF),
   (0xDDF, 0xDDF), (0x1160, 0x11FF), (0x1715, 0x1715), (0x1734, 0x1734), (0x180E, 0x180E),
   (0x1B35, 0x1B35), (0x1B3B, 0x1B3B), (0x1B3D, 0x1B3D), (0x1B43, 0x1B44), (0x1BAA, 0x1BAA),
   (0x1BF2, 0x1BF3), (0x200C, 0x200D), (0x2065, 0x2069), (0x302E, 0x302F), (0x3164, 0x3164),
   (0xA8FA, 0xA8FA), (0xA953, 0xA953), (0xA9C0, 0xA9C0), (0xD7B0, 0xD7C6), (0xD7CB, 0xD7FB),
   (0xFFA0, 0xFFA0), (0xFFF0, 0xFFF8), (0x111C0, 0x111C0), (0x111C2, 0x111C3), (0x11235, 0x11235),
   (0x1133E, 0x1133E), (0x1134D, 0x1134D), (0x11357, 0x11357), (0x113B8, 0x113B8),
   (0x113C2, 0x113C2), (0x113C5, 0x113C5), (0x113C7, 0x113C9), (0x113CF, 0x113CF),
   (0x113D1, 0x113D1), (0x114B0, 0x114B0), (0x114BD, 0x114BD), (0x115AF, 0x115AF),
   (0x116B6, 0x116B6), (0x11930, 0x11930), (0x1193D, 0x1193D), (0x1193F, 0x1193F),
   (0x11941, 0x11941), (0x11A3A, 0x11A3A), (0x11A84, 0x11A89), (0x11D46, 0x11D46),
   (0x11F02, 0x11F02), (0x11F41, 0x11F41), (0x16FF0, 0x16FF1), (0x1D165, 0x1D166),
   (0x1D16D, 0x1D172), (0xE0000, 0xE0000), (0xE0002, 0xE001F), (0xE0080, 0xE00FF),
   (0xE01F0, 0xE0FFF)]

/-- A mark that letters join across. -/
def isTransparentMark (c : Char) : Bool :=
  charWidth c == 0 && !inRanges separatingRanges c.toNat

/-- The marks that are ignored in display, as closed ranges of code points. -/
def ignoredMarkRanges : List (Nat × Nat) :=
  [(0x34F, 0x34F), (0x17B4, 0x17B5), (0x180B, 0x180D), (0x180F, 0x180F), (0xFE00, 0xFE0F),
   (0xE0100, 0xE01EF)]

/-- The Arabic letters of the group of alef, as closed ranges of code points. -/
def alefRanges : List (Nat × Nat) :=
  [(0x622, 0x623), (0x625, 0x625), (0x627, 0x627), (0x671, 0x673), (0x675, 0x675), (0x773, 0x774),
   (0x870, 0x882)]

/-- The Arabic letters of the group of lam, as closed ranges of code points. -/
def lamRanges : List (Nat × Nat) :=
  [(0x644, 0x644), (0x6B5, 0x6B8), (0x76A, 0x76A), (0x8A6, 0x8A6), (0x8C7, 0x8C7)]

/-- The Tifinagh consonants, as closed ranges of code points. -/
def tifinaghRanges : List (Nat × Nat) := [(0x2D31, 0x2D65), (0x2D6F, 0x2D6F)]

/-- The Khmer letters that can stand below another, as closed ranges of code points. -/
def subjoinedRanges : List (Nat × Nat) :=
  [(0x1780, 0x1782), (0x1784, 0x1787), (0x1789, 0x178C), (0x178E, 0x1793), (0x1795, 0x1798),
   (0x179B, 0x179D), (0x17A0, 0x17A0), (0x17A2, 0x17A2), (0x17A7, 0x17A7), (0x17AB, 0x17AC),
   (0x17AF, 0x17AF)]

/-! ## Signs from their end -/

/-- The end of a sign of several letters. Some letters join only what a zero width joiner stands
behind: `joined` is whether one has been seen. -/
inductive Ligature where
  /-- An Arabic alef, which joins a lam. -/
  | alef
  /-- A Hebrew lamed, which joins an alef. -/
  | lamed (joined : Bool)
  /-- A Buginese ya, which joins the vowel sign i on an a. -/
  | ya (joined : Bool)
  /-- A Buginese vowel sign i and the ya that it is joined with. -/
  | vowelI
  /-- A Tifinagh consonant, which joins another. -/
  | tifinagh (joined : Bool)
  /-- The consonant joiner of Tifinagh in front of a consonant. -/
  | tifinaghJoiner
  /-- A Lisu tone letter of the second kind, which joins one of the first. -/
  | tone
  /-- An Old Turkic i, which joins an ich. -/
  | orkhon (joined : Bool)
  /-- A Khmer letter that can stand below another. -/
  | subjoined
  /-- The vowel sign e of Kirat Rai, which joins other vowel signs. -/
  | vowelE
  /-- The vowel sign ai of Kirat Rai, which is two of those. -/
  | vowelAi
deriving DecidableEq, Repr

namespace Ligature

/-- The sign that ends with a letter. -/
def ofChar? (c : Char) : Option Ligature :=
  if inRanges alefRanges c.toNat then some .alef
  else if c = '\u05DC' then some (.lamed false)
  else if c = '\u1A10' then some (.ya false)
  else if inRanges tifinaghRanges c.toNat then some (.tifinagh false)
  else if c = '\uA4FC' ∨ c = '\uA4FD' then some .tone
  else if c.toNat = 0x10C03 then some (.orkhon false)
  else if inRanges subjoinedRanges c.toNat then some .subjoined
  else if c.toNat = 0x16D67 then some .vowelE
  else if c.toNat = 0x16D68 then some .vowelAi
  else none

/-- Whether what is ignored in display can stand inside the sign. -/
def seesThrough : Ligature → Bool
  | .alef | .vowelE | .vowelAi => false
  | _ => true

/-- Whether the sign still stands behind a selector that changes nothing. -/
def outlastsSelectors : Ligature → Bool
  | .vowelE | .vowelAi => false
  | _ => true

/-- The sign behind a zero width joiner. -/
def join : Ligature → Ligature
  | .lamed _ => .lamed true
  | .ya _ => .ya true
  | .tifinagh _ => .tifinagh true
  | .orkhon _ => .orkhon true
  | l => l

/-- The columns that the character before a sign adds to it, if it belongs to the sign, and what the
sign is then, if it goes on. -/
def extend? (l : Ligature) (c : Char) : Option (Int × Option Ligature) :=
  if l.seesThrough && c = '\u200D' then some (0, some l.join)
  else if l.seesThrough && inRanges ignoredMarkRanges c.toNat then some (0, some l)
  else match l with
    | .alef =>
      if inRanges lamRanges c.toNat then some (0, none)
      else if isTransparentMark c then some (0, some .alef)
      else none
    | .lamed joined => if joined && c = '\u05D0' then some (0, none) else none
    | .ya joined => if joined && c = '\u1A17' then some (0, some .vowelI) else none
    | .vowelI => if c = '\u1A15' then some (0, none) else none
    | .tifinagh joined =>
      if c = '\u2D7F' then some (1, some .tifinaghJoiner)
      else if joined && inRanges tifinaghRanges c.toNat then some (0, none)
      else none
    | .tifinaghJoiner => if inRanges tifinaghRanges c.toNat then some (-1, none) else none
    | .tone => if 0xA4F8 ≤ c.toNat && c.toNat ≤ 0xA4FB then some (0, none) else none
    | .orkhon joined => if joined && c.toNat = 0x10C32 then some (0, none) else none
    | .subjoined => if c = '\u17D2' then some (-1, none) else none
    | .vowelE =>
      if c.toNat = 0x16D63 ∨ c.toNat = 0x16D69 then some (0, none)
      else if c.toNat = 0x16D67 then some (0, some .vowelAi)
      else if c.toNat = 0x16D68 then some (1, some .vowelE)
      else none
    | .vowelAi => if c.toNat = 0x16D63 then some (0, none) else none

end Ligature

end RowQuery.Text
