import RowQuery.Proofs.Binary64.Rounding
import RowQuery.Proofs.Scalar.Order

/-!
# The loose order of numbers

Two scalars compare in a condition by the floating-point numbers they count as, and are sorted by
their exact values. For numbers the two orders differ in one case: an integer of more than 53 bits is
rounded, and where that takes it to the number it is compared with, the two are found equal
(`Scalar.RoundedTogether`). Rounding is monotone, so an integer is never rounded past a number, and
all other pairs of numbers are in one order (`Scalar.looseCompare?_eq_sortCompare_iff`).
-/

namespace RowQuery

/-! ## Rounded integers beside numbers -/

namespace Binary64

/-- A rounded integer is in the order of the integer to a number, unless it is rounded to the number
without being equal to it. -/
theorem compare_units_ofInt {x : Binary64} (hx : ¬ x.IsNaN) (i : Int) :
    compare (ofInt i).units x.units = compare (i * unitsPerOne) x.units ↔
      ((ofInt i).units = x.units → i * unitsPerOne = x.units) := by
  rcases Int.lt_trichotomy (i * unitsPerOne) x.units with hlt | heq | hgt
  · have hle := units_ofInt_le_units hx (Int.le_of_lt hlt)
    rw [Int.compare_eq_lt.2 hlt, Int.compare_eq_lt]
    omega
  · have hsame := Int.le_antisymm (units_ofInt_le_units hx (Int.le_of_eq heq))
      (units_le_units_ofInt hx (Int.le_of_eq heq.symm))
    rw [hsame, heq]
    exact ⟨fun _ _ => rfl, fun _ => rfl⟩
  · have hle := units_le_units_ofInt hx (Int.le_of_lt hgt)
    rw [Int.compare_eq_gt.2 hgt, Int.compare_eq_gt]
    omega

/-- An integer that is rounded to an integer of 53 bits at most is that integer. -/
theorem eq_of_units_ofInt {i k : Int} (hk : k.natAbs < 2 ^ 53)
    (h : (ofInt i).units = k * unitsPerOne) : i = k := by
  have hone : (0 : Int) < unitsPerOne := Int.natCast_pos.2 unitsPerOne_pos
  have hmul {j j' : Int} : j * unitsPerOne ≤ j' * unitsPerOne ↔ j ≤ j' :=
    ⟨fun hle => Int.le_of_mul_le_mul_right hle hone,
      fun hle => Int.mul_le_mul_of_nonneg_right hle (Int.le_of_lt hone)⟩
  rcases Nat.le_total i.natAbs (2 ^ 53) with hsmall | hlarge
  · rw [units_ofInt_of_le hsmall] at h
    exact Int.le_antisymm (hmul.1 (Int.le_of_eq h)) (hmul.1 (Int.le_of_eq h.symm))
  · -- a greater integer is not rounded below the bound of the exact ones
    have hupper : (ofInt (2 ^ 53)).units = 2 ^ 53 * unitsPerOne := units_ofInt_of_le (by decide)
    have hlower : (ofInt (-2 ^ 53)).units = -2 ^ 53 * unitsPerOne := units_ofInt_of_le (by decide)
    have habove := units_le_units_ofInt (not_isNaN_ofInt (2 ^ 53)) (i := i)
    have hbelow := units_ofInt_le_units (not_isNaN_ofInt (-2 ^ 53)) (i := i)
    rw [hupper, h, hmul, hmul] at habove
    rw [hlower, h, hmul, hmul] at hbelow
    omega

/-- What counts values counts equal ones alike. -/
theorem Counts.eq_iff {u u' : Int} {v v' : Extended} (h : Counts u v) (h' : Counts u' v') :
    u = u' ↔ v = v' := by
  rw [← Int.compare_eq_eq, h.compare_eq h', compare_eq_iff_eq]

/-- The order of two numbers is reversed in the other direction. -/
theorem compare?_swap (x y : Binary64) : y.compare? x = (x.compare? y).map Ordering.swap := by
  unfold compare?
  by_cases h : x.IsNaN ∨ y.IsNaN
  · rw [if_pos h, if_pos h.symm]
    rfl
  · rw [if_neg h, if_neg (mt Or.symm h)]
    exact congrArg some Std.OrientedCmp.eq_swap

end Binary64

namespace Scalar

open Binary64 (Extended)

/-- The order in a condition is reversed in the other direction. -/
theorem looseCompare?_swap (a b : Scalar) :
    b.looseCompare? a = (a.looseCompare? b).map Ordering.swap := by
  have hnumbers (x? y? : Option Binary64) : (do (← y?).compare? (← x?)) =
      (do (← x?).compare? (← y?)).map Ordering.swap := by
    cases x? with
    | none => cases y? <;> rfl
    | some x =>
      cases y? with
      | none => rfl
      | some y => exact Binary64.compare?_swap x y
  cases a with
  | null => cases b <;> rfl
  | bool | float =>
    cases b with
    | null => rfl
    | bool | int | float | text => exact hnumbers _ _
  | int i =>
    cases b with
    | null => rfl
    | int j => exact congrArg some Std.OrientedCmp.eq_swap
    | bool | float | text => exact hnumbers _ _
  | text s =>
    cases b with
    | null => rfl
    | text t => exact congrArg some Std.OrientedCmp.eq_swap
    | bool | int | float => exact hnumbers _ _

/-! ## Numbers that are rounded together -/

/-- An integer and a floating-point number that the integer is rounded to, without being equal to
it. -/
def RoundedTogether : Scalar → Scalar → Prop
  | .int i, .float x | .float x, .int i =>
    (Binary64.ofInt i.toInt).value = x.value ∧ ((i.toInt : ℚ) : WithTop ℚ) ≠ x.value
  | _, _ => False

/-- It does not matter which of the two comes first. -/
theorem RoundedTogether.symm {a b : Scalar} (h : RoundedTogether a b) : RoundedTogether b a := by
  cases a <;> cases b <;> exact h

/-- Numbers that are rounded together have different values. -/
theorem RoundedTogether.value_ne {a b : Scalar} {v w : Extended} (h : RoundedTogether a b)
    (ha : a.extended? = some v) (hb : b.extended? = some w) : v ≠ w := by
  have hfloat {x : Binary64} {w : Extended} (hx : (Scalar.float x).extended? = some w) :
      x.value = w := by
    rw [extended?, Option.ite_none_left_eq_some] at hx
    exact Option.some.inj hx.2
  cases a with
  | null | text => cases ha
  | bool b => cases h
  | int i =>
    cases ha
    cases b with
    | float x => exact hfloat hb ▸ h.2
    | null | bool | int | text => cases h
  | float x =>
    cases b with
    | int j =>
      cases hb
      exact hfloat ha ▸ h.2.symm
    | null | bool | float | text => cases h

/-- Numbers that are rounded together, in units. -/
theorem roundedTogether_iff {i : Int64} {x : Binary64} (hx : ¬ x.IsNaN) :
    RoundedTogether (.int i) (.float x) ↔ (Binary64.ofInt i.toInt).units = x.units ∧
      i.toInt * Binary64.unitsPerOne ≠ x.units := by
  have hvalue := Binary64.counts_units hx
  rw [(Binary64.counts_units (Binary64.not_isNaN_ofInt _)).eq_iff hvalue, Ne,
    (Binary64.counts_int i).eq_iff hvalue]
  rfl

/-- An integer of 53 bits at most is rounded together with no number. -/
theorem RoundedTogether.large {i : Int64} {x : Binary64}
    (h : RoundedTogether (.int i) (.float x)) : 2 ^ 53 < i.toInt.natAbs := by
  refine Nat.not_le.1 fun hle => h.2 ?_
  have hexact := Binary64.units_ofInt_of_le hle
  rw [← h.1, ← (Binary64.counts_int i).eq_iff
    (Binary64.counts_units (Binary64.not_isNaN_ofInt _)), hexact]

/-- Numbers that are rounded together are an integer of more than 53 bits and a floating-point
number. -/
theorem RoundedTogether.exists_large {a b : Scalar} (h : RoundedTogether a b) :
    ∃ (i : Int64) (x : Binary64), (a = .int i ∧ b = .float x ∨ a = .float x ∧ b = .int i) ∧
      2 ^ 53 < i.toInt.natAbs := by
  cases a with
  | null | bool | text => cases h
  | int i =>
    cases b with
    | float x => exact ⟨i, x, .inl ⟨rfl, rfl⟩, h.large⟩
    | null | bool | int | text => cases h
  | float x =>
    cases b with
    | int i => exact ⟨i, x, .inr ⟨rfl, rfl⟩, h.symm.large⟩
    | null | bool | float | text => cases h

/-- An integer of 53 bits at most counts as itself. -/
theorem counts_ofInt {i : Int64} (h : i.toInt.natAbs ≤ 2 ^ 53) :
    Binary64.Counts (Binary64.ofInt i.toInt).units ((i.toInt : ℚ) : WithTop ℚ) := by
  rw [Binary64.units_ofInt_of_le h]
  exact Binary64.counts_int i

/-! ## The order of two numbers -/

/-- Two scalars of which not both are integers nor texts compare by the numbers they count as. -/
theorem looseCompare?_of_number? {a b : Scalar} {x y : Binary64}
    (hint : ∀ i j, a = .int i → b ≠ .int j) (htext : ∀ s t, a = .text s → b ≠ .text t)
    (ha : a.number? = some x) (hb : b.number? = some y) : a.looseCompare? b = x.compare? y := by
  have hnumbers : a.looseCompare? b =
      a.number?.bind fun x => b.number?.bind fun y => x.compare? y := by
    unfold looseCompare?
    split
    · rfl
    · cases a.number? <;> rfl
    · exact absurd rfl (htext _ _ rfl)
    · exact absurd rfl (hint _ _ rfl)
    · rfl
  rw [hnumbers, ha, hb]
  rfl

/-- A Boolean or floating-point number counts as the number that it is. -/
theorem exists_number? {a : Scalar} {v : Extended} (hint : ∀ i, a ≠ .int i)
    (h : a.extended? = some v) : ∃ x, a.number? = some x ∧ ¬ x.IsNaN ∧ Binary64.Counts x.units v := by
  cases a with
  | null | text => cases h
  | int i => exact absurd rfl (hint i)
  | float x =>
    rw [extended?, Option.ite_none_left_eq_some, Option.some.injEq] at h
    exact ⟨x, rfl, h.1, h.2 ▸ Binary64.counts_units h.1⟩
  | bool b =>
    refine ⟨_, rfl, Binary64.not_isNaN_ofInt _, ?_⟩
    cases h
    cases b
    · simpa using counts_ofInt (i := 0) (by decide)
    · simpa using counts_ofInt (i := 1) (by decide)

/-- An integer compares with another number as it is sorted, unless it is rounded to that number
without being equal to it. -/
theorem looseCompare?_int_iff {i : Int64} {b : Scalar} {x : Binary64} {w : Extended}
    (hint : ∀ j, b ≠ .int j) (hb : b.extended? = some w) (hnumber : b.number? = some x)
    (hx : ¬ x.IsNaN) (hcounts : Binary64.Counts x.units w) :
    (Scalar.int i).looseCompare? b = some ((Scalar.int i).sortCompare b) ↔
      ((Binary64.ofInt i.toInt).units = x.units →
        i.toInt * Binary64.unitsPerOne = x.units) := by
  have hsort : (Scalar.int i).sortCompare b = compare (i.toInt * Binary64.unitsPerOne) x.units := by
    rw [sortCompare_of_values rfl hb, (Binary64.counts_int i).compare_eq hcounts]
  rw [looseCompare?_of_number? (fun _ j _ => hint j) (by simp) rfl hnumber,
    Binary64.compare?_of_numbers (Binary64.not_isNaN_ofInt _) hx, hsort, Option.some.injEq,
    Binary64.compare_units_ofInt hx]

/-- To compare as they are sorted does not depend on which of two scalars comes first. -/
theorem looseCompare?_eq_sortCompare_symm {a b : Scalar}
    (h : a.looseCompare? b = some (a.sortCompare b)) :
    b.looseCompare? a = some (b.sortCompare a) := by
  rw [looseCompare?_swap, h]
  exact congrArg some Std.OrientedCmp.eq_swap.symm

/-- An integer and another number compare as they are sorted, unless they are rounded together. -/
theorem looseCompare?_int_eq_sortCompare_iff {i : Int64} {b : Scalar} {w : Extended}
    (hb : b.extended? = some w) :
    (Scalar.int i).looseCompare? b = some ((Scalar.int i).sortCompare b) ↔
      ¬ RoundedTogether (.int i) b := by
  cases b with
  | null | text => cases hb
  | int j => exact iff_of_true rfl id
  | bool b =>
    obtain ⟨x, hnumber, hx, hcounts⟩ := exists_number? (by simp) hb
    refine iff_of_true ((looseCompare?_int_iff (by simp) hb hnumber hx hcounts).2 fun h => ?_) id
    cases hnumber
    have hunits : (Binary64.ofInt (if b then 1 else 0)).units =
        (if b then 1 else 0) * Binary64.unitsPerOne :=
      Binary64.units_ofInt_of_le (by cases b <;> decide)
    rw [hunits] at h ⊢
    rw [Binary64.eq_of_units_ofInt (by cases b <;> decide) h]
  | float x =>
    obtain ⟨y, hnumber, hx, hcounts⟩ := exists_number? (by simp) hb
    cases hnumber
    rw [looseCompare?_int_iff (by simp) hb rfl hx hcounts, roundedTogether_iff hx, not_and_not_right]

/-- Two numbers that are no integers compare as they are sorted. -/
theorem looseCompare?_eq_sortCompare {a b : Scalar} {v w : Extended} (hint : ∀ i, a ≠ .int i)
    (hint' : ∀ j, b ≠ .int j) (ha : a.extended? = some v) (hb : b.extended? = some w) :
    a.looseCompare? b = some (a.sortCompare b) := by
  obtain ⟨x, hnumber, hx, hcounts⟩ := exists_number? hint ha
  obtain ⟨y, hnumber', hy, hcounts'⟩ := exists_number? hint' hb
  have htext : ∀ s t, a = .text s → b ≠ .text t := by
    rintro s t rfl
    cases ha
  rw [looseCompare?_of_number? (fun _ j _ => hint' j) htext hnumber hnumber',
    Binary64.compare?_of_numbers hx hy, hcounts.compare_eq hcounts', sortCompare_of_values ha hb]

/-- Two numbers compare as they are sorted, unless they are rounded together. -/
theorem looseCompare?_eq_sortCompare_iff {a b : Scalar} {v w : Extended}
    (ha : a.extended? = some v) (hb : b.extended? = some w) :
    a.looseCompare? b = some (a.sortCompare b) ↔ ¬ RoundedTogether a b := by
  cases a with
  | null | text => cases ha
  | int i => exact looseCompare?_int_eq_sortCompare_iff hb
  | bool | float =>
    cases b with
    | null | text => cases hb
    | int j =>
      rw [← not_congr ⟨RoundedTogether.symm, RoundedTogether.symm⟩,
        ← looseCompare?_int_eq_sortCompare_iff ha]
      exact ⟨looseCompare?_eq_sortCompare_symm, looseCompare?_eq_sortCompare_symm⟩
    | bool | float => exact iff_of_true (looseCompare?_eq_sortCompare (by simp) (by simp) ha hb) id

/-- Numbers that compare as they are sorted are equal in a condition when they are in the order. -/
theorem looseEq_eq {a b : Scalar} (h : a.looseCompare? b = some (a.sortCompare b)) :
    a.looseEq b = (a.sortCompare b == .eq) := by
  rw [looseEq, h]
  rfl

end Scalar

end RowQuery
