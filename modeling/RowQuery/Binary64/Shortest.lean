import RowQuery.Binary64.Rounding

/-!
# The fewest digits that identify a number

`Binary64.shortest` writes a finite number as a decimal of the fewest significant digits that reads
back as that number, and of those the nearest one. Each grid of decimals, from one digit to
seventeen, offers the two neighbours of the value; a neighbour counts when `Binary64.ofDecimal`
takes it back to the number. So what is selected reads back by its own test, and the exact decimal
expansion stands in where no neighbour does.
-/

namespace RowQuery

/-- The decimal number `digits * 10 ^ exponent`. -/
structure Decimal where
  /-- The digits, read as one natural number. -/
  digits : Nat
  /-- The power of ten they are scaled by. -/
  exponent : Int
deriving DecidableEq, Repr

namespace Decimal

/-- Which of two equally near neighbours is taken. -/
inductive Tie where
  /-- The one whose last digit is even. -/
  | toEven
  /-- The greater one. -/
  | up
deriving DecidableEq, Repr

/-- Moves up to `fuel` trailing zeros of the digits into the exponent. -/
def stripZeros : Nat → Decimal → Decimal
  | 0, d => d
  | fuel + 1, d =>
    if d.digits ≠ 0 ∧ d.digits % 10 = 0 then stripZeros fuel ⟨d.digits / 10, d.exponent + 1⟩
    else d

/-- The decimal digits of a natural number, the first one leading. -/
def digitChars (n : Nat) : List Char := Nat.toDigits 10 n

end Decimal

namespace Binary64

/-- Whether a decimal, read with the sign of the number, is that number. -/
def ReadsBack (x : Binary64) (d : Decimal) : Prop :=
  ofDecimal x.negative d.digits d.exponent = x

instance (x : Binary64) (d : Decimal) : Decidable (x.ReadsBack d) :=
  inferInstanceAs (Decidable (_ = _))

/-- The least `k` with the absolute value below `10 ^ k`, for a number other than zero. The value is
scaled by `10 ^ 400`, which brings every number above one, and its digits are counted. -/
def decimalScale (x : Binary64) : Int :=
  ((Nat.toDigits 10 (x.magnitude * Nat.pow 10 400 / unitsPerOne)).length : Int) - 400

/-- Of the two neighbours of the value among the multiples of `10 ^ exponent`, the nearest that
reads back, if one does. -/
def neighbour? (tie : Decimal.Tie) (x : Binary64) (exponent : Int) : Option Decimal :=
  let num := x.magnitude * Nat.pow 10 (-exponent).toNat
  let den := unitsPerOne * Nat.pow 10 exponent.toNat
  let below : Decimal := ⟨num / den, exponent⟩
  let above : Decimal := ⟨num / den + 1, exponent⟩
  let belowFirst := match compare (2 * (num % den)) den, tie with
    | .lt, _ => true
    | .gt, _ => false
    | .eq, .toEven => below.digits % 2 == 0
    | .eq, .up => false
  let candidates := if belowFirst then [below, above] else [above, below]
  candidates.find? fun d => d.digits ≠ 0 ∧ x.ReadsBack d

/-- The exact decimal value. -/
def exactDecimal (x : Binary64) : Decimal := ⟨x.magnitude * Nat.pow 5 1074, -1074⟩

/-- The shortest decimal that reads back as the number, nearest first, for a finite number other
than zero. -/
def shortest (tie : Decimal.Tie) (x : Binary64) : Decimal :=
  let grids := (List.range 17).map fun (n : Nat) => x.decimalScale - (n + 1)
  ((grids.findSome? (x.neighbour? tie)).getD x.exactDecimal).stripZeros 400

end Binary64

end RowQuery
