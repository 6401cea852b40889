/-!
# Binary floating-point numbers

`Binary64` is a 64-bit floating-point number by its three fields. What it stands for is exact:
every finite number is a whole multiple of `2 ^ -1074`, and `Binary64.units` counts them, with the
infinities where the next binade would begin. So order and equality of numbers (`compare?`) and of
a number with an integer (`compareInt?`) are comparisons of integers, with no rounding.
-/

namespace RowQuery

/-- A 64-bit floating-point number by its sign, its biased exponent and its fraction. -/
structure Binary64 where
  /-- Whether the sign bit is set. -/
  negative : Bool
  /-- The biased exponent; `2047` marks infinities and not-a-numbers. -/
  exponent : Fin 2048
  /-- The 52 stored bits of the significand. -/
  fraction : Fin 4503599627370496
deriving DecidableEq, Repr

namespace Binary64

/-- A number that is neither an infinity nor a not-a-number. -/
abbrev IsFinite (x : Binary64) : Prop := x.exponent ≠ 2047

/-- A datum that is not a number. -/
abbrev IsNaN (x : Binary64) : Prop := x.exponent = 2047 ∧ x.fraction ≠ 0

/-- The number of a sign and of the low bits of an exponent and a fraction. -/
def ofFields (negative : Bool) (exponent fraction : Nat) : Binary64 :=
  ⟨negative, Fin.ofNat 2048 exponent, Fin.ofNat 4503599627370496 fraction⟩

/-- The not-a-number with a quiet bit and nothing else. -/
def nan : Binary64 := ⟨false, 2047, 2251799813685248⟩

/-- The infinity of a sign. -/
def infinity (negative : Bool) : Binary64 := ⟨negative, 2047, 0⟩

/-- The zero of a sign. -/
def zero (negative : Bool) : Binary64 := ⟨negative, 0, 0⟩

/-- The number `2 ^ 63`, the first past the integers of 64 bits, of a sign. -/
def int64Bound (negative : Bool) : Binary64 := ⟨negative, 1086, 0⟩

/-! ## The value -/

/-- How many multiples of `2 ^ -1074` make one. -/
def unitsPerOne : Nat := Nat.pow 2 1074

/-- The absolute value in multiples of `2 ^ -1074`. An infinity counts as `2 ^ 1024`, above every
finite number. -/
def magnitude (x : Binary64) : Nat :=
  if x.exponent.val = 0 then x.fraction.val
  else (Nat.pow 2 52 + x.fraction.val) * Nat.pow 2 (x.exponent.val - 1)

/-- The value in multiples of `2 ^ -1074`. -/
def units (x : Binary64) : Int :=
  if x.negative then -(x.magnitude : Int) else x.magnitude

/-- The order of two numbers by value; nothing is comparable with a not-a-number. -/
def compare? (x y : Binary64) : Option Ordering :=
  if x.IsNaN ∨ y.IsNaN then none else some (compare x.units y.units)

/-- The order of an integer and a number by value. -/
def compareInt? (i : Int) (x : Binary64) : Option Ordering :=
  if x.IsNaN then none else some (compare (i * unitsPerOne) x.units)

/-! ## The interchange format -/

/-- The number of a 64-bit word. All not-a-numbers are one. -/
def ofBits (bits : UInt64) : Binary64 :=
  let n := bits.toNat
  let x := ofFields (n / Nat.pow 2 63 % 2 == 1) (n / Nat.pow 2 52) n
  if x.IsNaN then nan else x

/-- The 64-bit word of a number. -/
def toBits (x : Binary64) : UInt64 :=
  UInt64.ofNat
    ((if x.negative then Nat.pow 2 63 else 0) + x.exponent.val * Nat.pow 2 52 + x.fraction.val)

end Binary64

end RowQuery
