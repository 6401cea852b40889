import RowQuery.Binary64.Rounding
import RowQuery.Text.Pieces

/-!
# Numbers in text

`Binary64.ofText?` reads a number from a text that holds nothing else: a sign, digits with at most
one point and at least one digit, an exponent with at least one digit; or the name of an infinity or
of not-a-number in any case. `Text.digitRun` and `Text.digitsValue` are the parts other readers of
numerals share.
-/

namespace RowQuery

namespace Text

/-- The leading decimal digits of a text and what follows them. -/
def digitRun (s : List Char) : List Char × List Char :=
  (s.takeWhile Char.isDigit, s.dropWhile Char.isDigit)

/-- The number that a list of decimal digits writes. -/
def digitsValue (digits : List Char) : Nat :=
  digits.foldl (fun n c => 10 * n + (c.toNat - '0'.toNat)) 0

/-- A sign at the start of a text, as whether it is a minus, and what follows it. -/
def optionalSign : List Char → Bool × List Char
  | '-' :: rest => (true, rest)
  | '+' :: rest => (false, rest)
  | rest => (false, rest)

/-- The exponent part of a numeral that ends the text: nothing, or a mark, a sign and digits. -/
def exponentPart? : List Char → Option Int
  | [] => some 0
  | mark :: rest =>
    let (negative, digits) := optionalSign rest
    if (mark = 'e' ∨ mark = 'E') ∧ digits ≠ [] ∧ digits.all Char.isDigit then
      some (if negative then -(digitsValue digits : Int) else digitsValue digits)
    else none

end Text

namespace Binary64

open Text

/-- Reads an unsigned numeral, to be given a sign. -/
def ofNumeral? (negative : Bool) (s : List Char) : Option Binary64 :=
  let (whole, afterWhole) := digitRun s
  let (places, afterPlaces) := match afterWhole with
    | '.' :: rest => digitRun rest
    | rest => ([], rest)
  if whole = [] ∧ places = [] then none
  else (exponentPart? afterPlaces).map fun exponent =>
    ofDecimal negative (digitsValue (whole ++ places)) (exponent - places.length)

/-- Reads a number from the whole of a text. -/
def ofText? (s : String) : Option Binary64 :=
  let (negative, rest) := optionalSign s.toList
  let name := asciiLower (String.ofList rest)
  if name = "inf" ∨ name = "infinity" then some (infinity negative)
  else if name = "nan" then some nan
  else ofNumeral? negative rest

end Binary64

end RowQuery
