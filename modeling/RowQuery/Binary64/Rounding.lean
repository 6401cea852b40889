import RowQuery.Binary64.Basic

/-!
# Rounding to binary floating-point numbers

`Binary64.ofRatio` is the number nearest to a quotient of naturals, with ties to the even
significand, and `Binary64.ofInt`, `Binary64.ofDecimal` are its cases for integers and decimals.
The quotient is counted in multiples of `2 ^ -1074` and cut to 53 significant bits in exact integer
arithmetic, so one rounding happens and no intermediate result is inexact.
-/

namespace RowQuery

/-- The natural number nearest to `num / den`; of two equally near, the even one. -/
def roundHalfEven (num den : Nat) : Nat :=
  let quotient := num / den
  let remainder := num % den
  if 2 * remainder < den ∨ (2 * remainder = den ∧ quotient % 2 = 0) then quotient
  else quotient + 1

namespace Binary64

/-- The number of value `significand * 2 ^ shift`, in multiples of `2 ^ -1074`, for a significand of
at most `2 ^ 53` that has its leading bit at `2 ^ 52` or no shift. From `2 ^ 1024` on it is the
infinity. -/
def ofSignificand (negative : Bool) (significand shift : Nat) : Binary64 :=
  if significand < Nat.pow 2 52 then ofFields negative 0 significand
  else
    let carried := significand == Nat.pow 2 53
    let exponent := if carried then shift + 2 else shift + 1
    if exponent < 2047 then ofFields negative exponent significand else infinity negative

/-- The number nearest to `num / den`, ties to the even significand. -/
def ofRatio (negative : Bool) (num den : Nat) : Binary64 :=
  let shift := (num * unitsPerOne / den).log2 - 52
  ofSignificand negative (roundHalfEven (num * unitsPerOne) (den * Nat.pow 2 shift)) shift

/-- The number nearest to an integer. -/
def ofInt (i : Int) : Binary64 :=
  ofRatio (i < 0) i.natAbs 1

/-- The number nearest to `digits * 10 ^ exponent`. Exponents that lead beyond the greatest or below
the least number whatever the digits are answered without computing the power. -/
def ofDecimal (negative : Bool) (digits : Nat) (exponent : Int) : Binary64 :=
  if digits = 0 ∨ exponent + digits.log2 + 332 < 0 then zero negative
  else if 310 < exponent then infinity negative
  else if 0 ≤ exponent then ofRatio negative (digits * Nat.pow 10 exponent.toNat) 1
  else ofRatio negative digits (Nat.pow 10 (-exponent).toNat)

end Binary64

end RowQuery
