import RowQuery.Binary64.Integral
import RowQuery.Scalar.Basic

/-!
# Comparing scalars

Two orders serve two clauses. `Scalar.looseCompare?` is the one of conditions: nothing is known of a
null, two texts or two integers compare as they are, and any other two scalars compare by the
numbers they count as. `Scalar.sortCompare` is the one of sorting: null comes first, then the numbers
(`Scalar.SortNumber.compare`), then the texts.
-/

namespace RowQuery.Scalar

/-! ## Loose comparison -/

/-- The order of two scalars in a condition, if it is known. -/
def looseCompare? : Scalar → Scalar → Option Ordering
  | .null, _ => none
  | _, .null => none
  | .text s, .text t => some (compare s t)
  | .int i, .int j => some (compare i.toInt j.toInt)
  | a, b => do (← a.number?).compare? (← b.number?)

/-- Whether two scalars are known to be equal in a condition. -/
def looseEq (a b : Scalar) : Bool := a.looseCompare? b == some .eq

/-! ## Sorting -/

/-- The rank of a kind of scalar: null, then numbers, then texts. -/
def sortRank : Scalar → Nat
  | .null => 0
  | .bool _ | .int _ | .float _ => 1
  | .text _ => 2

/-- A number that is sorted by its exact value. -/
inductive SortNumber where
  | int (i : Int64)
  | float (x : Binary64)
deriving DecidableEq, Repr

/-- The order of two numbers in a sorted list. -/
def SortNumber.compare : SortNumber → SortNumber → Ordering
  | .int i, .int j => Ord.compare i.toInt j.toInt
  | .int i, .float x => Binary64.compareInt64 i x
  | .float x, .int i => (Binary64.compareInt64 i x).swap
  | .float x, .float y => x.totalCompare y

/-- The number that a scalar of rank 1 is sorted by, with a Boolean as 0 or 1. -/
def sortNumber : Scalar → SortNumber
  | .bool b => .int (if b then 1 else 0)
  | .int i => .int i
  | .float x => .float x
  | .null | .text _ => .float .nan

/-- The order of two scalars in a sorted list. -/
def sortCompare : Scalar → Scalar → Ordering
  | .null, .null => .eq
  | .text s, .text t => compare s t
  | a, b =>
    if a.sortRank ≠ b.sortRank then compare a.sortRank b.sortRank
    else a.sortNumber.compare b.sortNumber

/-! ## Identity -/

/-- Whether two scalars are of one kind and one value. A not-a-number has no value. -/
def sameValue : Scalar → Scalar → Bool
  | .float x, .float y => x.compare? y == some .eq
  | a, b => a == b

end RowQuery.Scalar
