import RowQuery.Text.CaseFold
import RowQuery.Text.Pieces

/-!
# Matching text with wildcards

`Text.like` matches a whole text against a pattern in which `%` stands for any text and every other
character for itself, with case ignored. The pieces between the wildcards are looked for from left
to right, each at its first place after the one before, the last at the end of the text.
-/

namespace RowQuery.Text

/-- What follows the first occurrence of a piece in a text. -/
def afterFirst (piece : List Char) : List Char → Option (List Char)
  | [] => if piece = [] then some [] else none
  | c :: s =>
    if piece.isPrefixOf (c :: s) then some ((c :: s).drop piece.length) else afterFirst piece s

/-- Whether a text holds the pieces in order, with any text before each of them, and ends with the
last. -/
def holdsPieces : List (List Char) → List Char → Bool
  | [], s => s.isEmpty
  | [last], s => last.isSuffixOf s
  | piece :: rest, s =>
    match afterFirst piece s with
    | some s => holdsPieces rest s
    | none => false

/-- Whether a text begins with the first piece and holds the others behind it. -/
def matchesPieces : List (List Char) → List Char → Bool
  | [], s => s.isEmpty
  | [only], s => only == s
  | first :: rest, s => first.isPrefixOf s && holdsPieces rest (s.drop first.length)

/-- Whether a text matches a pattern. -/
def like (pattern s : String) : Bool :=
  matchesPieces ((pieces (· == '%') pattern.toList).map (·.map fold)) (s.toList.map fold)

/-- The number of wildcards from which on a pattern is refused. The regular expression that a pattern
stands for may take 10 MiB when it is compiled; a wildcard takes more than 175 bytes of them, so
that many wildcards do not fit. Patterns with fewer are taken to fit, whatever their other
characters take; those with at most 300 do. -/
def maxWildcards : Nat := 60000

/-- Whether a pattern has fewer wildcards than are refused. -/
def fitsPattern (pattern : String) : Bool := pattern.toList.count '%' < maxWildcards

end RowQuery.Text
