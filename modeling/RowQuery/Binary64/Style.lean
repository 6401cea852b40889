import RowQuery.Binary64.Shortest

/-!
# How numbers are written out

The digits of a number are chosen by `Binary64.shortest`; a `NumberStyle` holds what is left to
decide: which magnitudes are written positionally, whether an integral value keeps `.0`, and the tie
rule. `Binary64.render` writes a finite number in a style; the two styles in use are
`NumberStyle.json` and `NumberStyle.positional`. `Binary64.text` is the text of any number,
infinities and not-a-number included.
-/

namespace RowQuery

/-- The decisions of a way to write numbers. -/
structure NumberStyle where
  /-- The exponents of the leading digit that are written positionally, all when absent. -/
  plainRange : Option (Int × Int)
  /-- Whether an integral value is written with `.0`. -/
  keepsPoint : Bool
  /-- Which of two equally near shortest decimals is written. -/
  tie : Decimal.Tie

namespace NumberStyle

/-- Positional from `0.00001` to below `10 ^ 16` and always with a point; otherwise a significand
and a signed exponent. -/
def json : NumberStyle where
  plainRange := some (-5, 15)
  keepsPoint := true
  tie := .toEven

/-- Always positional, and an integral value without a point. -/
def positional : NumberStyle where
  plainRange := none
  keepsPoint := false
  tie := .up

/-- Whether a number whose leading digit has this exponent is written positionally. -/
def isPlain (style : NumberStyle) (leading : Int) : Bool :=
  match style.plainRange with
  | none => true
  | some (least, greatest) => decide (least ≤ leading ∧ leading ≤ greatest)

end NumberStyle

namespace Decimal

/-- The digits with a point where the exponent puts it. -/
def plainText (pointZero : Bool) (d : Decimal) : String :=
  let digits := digitChars d.digits
  let tail := if pointZero then ".0" else ""
  if 0 ≤ d.exponent then
    String.ofList (digits ++ List.replicate d.exponent.toNat '0') ++ tail
  else
    let places := (-d.exponent).toNat
    if places < digits.length then
      String.ofList (digits.take (digits.length - places)) ++ "."
        ++ String.ofList (digits.drop (digits.length - places))
    else "0." ++ String.ofList (List.replicate (places - digits.length) '0' ++ digits)

/-- The first digit, a point before the others if there are any, and the signed exponent of the
first digit. -/
def scientificText (d : Decimal) : String :=
  let digits := digitChars d.digits
  let leading := d.exponent + digits.length - 1
  let significand := match digits with
    | [] => ""
    | [c] => String.ofList [c]
    | c :: rest => String.ofList (c :: '.' :: rest)
  significand ++ "e" ++ (if leading < 0 then "-" else "+") ++ toString leading.natAbs

end Decimal

namespace Binary64

/-- A finite number in a style. -/
def render (style : NumberStyle) (x : Binary64) : String :=
  let sign := if x.negative then "-" else ""
  if x.magnitude = 0 then sign ++ "0" ++ (if style.keepsPoint then ".0" else "")
  else
    let d := x.shortest style.tie
    let leading := d.exponent + (Decimal.digitChars d.digits).length - 1
    sign ++ (if style.isPlain leading then d.plainText style.keepsPoint else d.scientificText)

/-- The text of a number: positional if it is finite, otherwise by name. -/
def text (x : Binary64) : String :=
  if x.IsNaN then "NaN"
  else if x.IsFinite then x.render .positional
  else if x.negative then "-inf" else "inf"

end Binary64

end RowQuery
