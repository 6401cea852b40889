import RowQuery.Binary64.Basic

/-!
# Floating-point numbers beside integers

`Binary64.trunc` cuts a number to its integral part and `Binary64.toInt64` casts one to an integer
of 64 bits. On them rests the order in which numbers are sorted, where a not-a-number lies above
every other number: `Binary64.totalCompare` compares two numbers and `Binary64.compareInt64` an
integer and a number, without rounding the integer to the nearest number.
-/

namespace RowQuery.Binary64

/-! ## Integral parts -/

/-- The number without its fraction, toward zero: below one it is the zero of its sign, from `2 ^ 52`
on there is no fraction, and between them the bits of the fraction are cleared. -/
def trunc (x : Binary64) : Binary64 :=
  if x.exponent.val < 1023 then zero x.negative
  else if 1075 ≤ x.exponent.val then x
  else
    let step := Nat.pow 2 (1075 - x.exponent.val)
    { x with
      fraction := ⟨x.fraction.val / step * step,
        Nat.lt_of_le_of_lt (Nat.div_mul_le_self _ _) x.fraction.isLt⟩ }

/-- The integral part as an integer of 64 bits. A number out of range becomes the nearest integer in
range, and a not-a-number zero. -/
def toInt64 (x : Binary64) : Int64 :=
  if x.IsNaN then 0 else .ofIntClamp (x.units.tdiv unitsPerOne)

/-! ## Sorting -/

/-- Whether a number is below another. -/
def lt (x y : Binary64) : Bool := x.compare? y == some .lt

/-- Whether a number is below another or equals it. -/
def le (x y : Binary64) : Bool := (x.compare? y).any Ordering.isLE

/-- The order of two numbers in a sorted list. -/
def totalCompare (x y : Binary64) : Ordering :=
  match decide x.IsNaN, decide y.IsNaN with
  | true, true => .eq
  | true, false => .gt
  | false, true => .lt
  | false, false => (x.compare? y).getD .eq

/-- The order of an integer and a number in a sorted list. Within the range of the integers the
integral part decides, and where that is the integer itself, the fraction. -/
def compareInt64 (i : Int64) (x : Binary64) : Ordering :=
  if x.IsNaN || (int64Bound false).le x then .lt
  else if x.lt (int64Bound true) then .gt
  else
    let whole := x.trunc
    (compare i.toInt whole.toInt64.toInt).then (whole.totalCompare x)

end RowQuery.Binary64
