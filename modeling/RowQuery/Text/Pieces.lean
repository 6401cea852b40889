/-!
# Cutting text into pieces

`Text.pieces` cuts a list at every element with a property and keeps the empty pieces, so joining
the pieces gives the list back (`Text.length_pieces` counts them). `Text.trim` and `Text.words` cut
at white space, by the Unicode property White_Space (`Text.isBlank`). `Text.asciiUpper` raises the
letters of ASCII and leaves every other character.
-/

namespace RowQuery.Text

/-! ## Pieces -/

/-- The pieces of a list between the elements with a property. -/
def pieces {α : Type} (p : α → Bool) : List α → List (List α)
  | [] => [[]]
  | a :: l =>
    if p a then [] :: pieces p l
    else match pieces p l with
      | [] => [[a]]
      | first :: rest => (a :: first) :: rest

/-- A list has one piece more than elements with the property. -/
theorem length_pieces {α : Type} (p : α → Bool) (l : List α) :
    (pieces p l).length = l.countP p + 1 := by
  induction l with
  | nil => rfl
  | cons a l ih =>
    unfold pieces
    by_cases h : p a
    · simp [h, ih]
    · cases hl : pieces p l with
      | nil => simp [hl] at ih
      | cons first rest => simpa [h, hl] using ih

/-- The pieces of a text between the occurrences of a character. -/
def piecesAt (c : Char) (s : String) : List String :=
  (pieces (· == c) s.toList).map String.ofList

/-! ## White space -/

/-- The characters with the Unicode property White_Space, as closed ranges of code points. -/
def blankRanges : List (Nat × Nat) :=
  [(0x09, 0x0D), (0x20, 0x20), (0x85, 0x85), (0xA0, 0xA0), (0x1680, 0x1680), (0x2000, 0x200A),
    (0x2028, 0x2029), (0x202F, 0x202F), (0x205F, 0x205F), (0x3000, 0x3000)]

/-- Whether a code point lies in one of the closed ranges. -/
def inRanges (ranges : List (Nat × Nat)) (n : Nat) : Bool :=
  ranges.any fun r => r.1 ≤ n && n ≤ r.2

/-- A white space character. -/
def isBlank (c : Char) : Bool := inRanges blankRanges c.toNat

/-- The text without white space at its two ends. -/
def trim (s : String) : String :=
  String.ofList (((s.toList.dropWhile isBlank).reverse.dropWhile isBlank).reverse)

/-- The words of a text, between runs of white space. -/
def words (s : String) : List String :=
  ((pieces isBlank s.toList).filter (! ·.isEmpty)).map String.ofList

/-! ## Letters of ASCII -/

/-- The text with the letters `a` to `z` raised. -/
def asciiUpper (s : String) : String := s.map Char.toUpper

/-- The text with the letters `A` to `Z` lowered. -/
def asciiLower (s : String) : String := s.map Char.toLower

end RowQuery.Text
