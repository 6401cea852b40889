import RowQuery.Proofs.Binary64.Integral
import Mathlib.Algebra.Order.Ring.Rat
import Mathlib.Order.WithBot
import Mathlib.Tactic.FieldSimp
import Mathlib.Tactic.Linarith
import Mathlib.Tactic.Ring

/-!
# The values of floating-point numbers

`Binary64.value` is the number that the three fields stand for, as a rational number or an infinity.
Units count it: an integer counts a value when it is that many times `2 ^ -1074`, with the infinities
beyond all finite values (`Counts`), and then integers are in the order of the values they count
(`Counts.compare_eq`).
-/

namespace RowQuery.Binary64

/-- The rational numbers between two infinities. -/
abbrev Extended := WithBot (WithTop ℚ)

/-- The absolute value of a finite number: its significand, with a leading one in the normal range,
times a power of two. -/
def modulus (x : Binary64) : ℚ :=
  if x.exponent.val = 0 then x.fraction.val / 2 ^ 52 * (2 : ℚ) ^ (-1022 : ℤ)
  else (1 + x.fraction.val / 2 ^ 52) * (2 : ℚ) ^ ((x.exponent.val : ℤ) - 1023)

/-- The value of a finite number. -/
def rational (x : Binary64) : ℚ := if x.negative then -x.modulus else x.modulus

/-- The value of a number. That of a datum that is not a number has no meaning. -/
def value (x : Binary64) : Extended :=
  if x.IsFinite then (x.rational : WithTop ℚ) else if x.negative then ⊥ else ⊤

/-! ## Counting in units -/

/-- The units that stand for the positive infinity. -/
def infinityUnits : Int := (infinity false).magnitude

/-- An integer counts a value in units. -/
inductive Counts : Int → Extended → Prop
  | top : Counts infinityUnits ⊤
  | bot : Counts (-infinityUnits) ⊥
  | rational {u : Int} {q : ℚ} (low : -infinityUnits < u) (high : u < infinityUnits)
    (h : q * unitsPerOne = u) : Counts u (q : WithTop ℚ)

/-- The infinity is a power of two of units. -/
theorem infinityUnits_eq {n : Nat} (h : 2098 = n) : infinityUnits = (2 ^ n : Nat) := by
  have hexponent : ∃ e, (infinity false).exponent.val = e ∧ e = 2047 := ⟨_, rfl, rfl⟩
  obtain ⟨e, he, hvalue⟩ := hexponent
  rw [infinityUnits, magnitude_of_normal (by omega), he]
  show ((2 ^ 52 + 0) * 2 ^ (e - 1) : Nat) = ((2 ^ n : Nat) : Int)
  rw [Nat.add_zero, ← Nat.pow_add]
  congr 2
  omega

/-- The infinity is above zero. -/
theorem infinityUnits_pos : 0 < infinityUnits := by
  obtain ⟨n, hn⟩ : ∃ n, 2098 = n := ⟨_, rfl⟩
  rw [infinityUnits_eq hn]
  exact Int.natCast_pos.2 (Nat.two_pow_pos n)

/-- Counts are in the order of what they count. -/
theorem Counts.lt_iff {u u' : Int} {v v' : Extended} (h : Counts u v) (h' : Counts u' v') :
    u < u' ↔ v < v' := by
  have hpos := infinityUnits_pos
  have hone : (0 : ℚ) < unitsPerOne := Nat.cast_pos.2 unitsPerOne_pos
  cases h with
  | top =>
    have hle : u' ≤ infinityUnits := by cases h' <;> omega
    simp [Int.not_lt.2 hle]
  | bot =>
    cases h' with
    | top => simpa using hpos
    | bot => simp
    | rational low high _ => simpa using low
  | @rational u q low high h =>
    cases h' with
    | top => simpa [high] using WithBot.coe_lt_coe.2 (WithTop.coe_lt_top q)
    | bot => simpa using Int.le_of_lt low
    | @rational u' q' low' high' h' =>
      rw [WithBot.coe_lt_coe, WithTop.coe_lt_coe, ← Int.cast_lt (R := ℚ), ← h, ← h']
      exact mul_lt_mul_iff_of_pos_right hone

/-- Counts compare as what they count. -/
theorem Counts.compare_eq {u u' : Int} {v v' : Extended} (h : Counts u v) (h' : Counts u' v') :
    compare u u' = compare v v' := by
  rcases lt_trichotomy v v' with hv | hv | hv
  · rw [compare_lt_iff_lt.2 hv, Int.compare_eq_lt.2 ((h.lt_iff h').2 hv)]
  · have hu : u = u' := by
      refine Int.le_antisymm (Int.not_lt.1 fun hlt => ?_) (Int.not_lt.1 fun hlt => ?_)
      · exact ((h'.lt_iff h).1 hlt).ne hv.symm
      · exact ((h.lt_iff h').1 hlt).ne hv
    rw [compare_eq_iff_eq.2 hv, Int.compare_eq_eq.2 hu]
  · rw [compare_gt_iff_gt.2 hv, Int.compare_eq_gt.2 ((h'.lt_iff h).2 hv)]

/-! ## Units of numbers -/

/-- The magnitude does not depend on the sign. -/
theorem magnitude_congr {x y : Binary64} (hexponent : x.exponent = y.exponent)
    (hfraction : x.fraction = y.fraction) : x.magnitude = y.magnitude := by
  rw [magnitude, magnitude, hexponent, hfraction]

/-- The magnitude of a finite number counts its absolute value. -/
theorem modulus_mul_unitsPerOne (x : Binary64) : x.modulus * unitsPerOne = x.magnitude := by
  obtain ⟨n, hn⟩ : ∃ n, 1074 = n := ⟨_, rfl⟩
  have hone : (unitsPerOne : ℚ) = (2 : ℚ) ^ (n : ℤ) := by
    rw [unitsPerOne_eq hn, Nat.cast_pow, zpow_natCast, Nat.cast_ofNat]
  rw [hone, modulus]
  split
  · next h =>
    have hpow : (-1022 : ℤ) + n = (52 : ℕ) := by omega
    rw [magnitude, if_pos h, mul_assoc, ← zpow_add₀ two_ne_zero, hpow, zpow_natCast]
    field_simp
  · next h =>
    have hpow : (x.exponent.val : ℤ) - 1023 + n = (52 : ℕ) + (x.exponent.val - 1 : ℕ) := by omega
    rw [magnitude_of_normal h, mul_assoc, ← zpow_add₀ two_ne_zero, hpow, zpow_add₀ two_ne_zero,
      zpow_natCast, zpow_natCast]
    push_cast
    field_simp
    norm_num

/-- The units of a finite number count its value. -/
theorem rational_mul_unitsPerOne (x : Binary64) : x.rational * unitsPerOne = x.units := by
  unfold rational units
  split
  · rw [neg_mul, modulus_mul_unitsPerOne, Int.cast_neg, Int.cast_natCast]
  · rw [modulus_mul_unitsPerOne, Int.cast_natCast]

/-- A finite number lies between the infinities. -/
theorem units_lt_infinityUnits {x : Binary64} (h : x.IsFinite) :
    -infinityUnits < x.units ∧ x.units < infinityUnits := by
  obtain ⟨n, hn⟩ : ∃ n, 2098 = n := ⟨_, rfl⟩
  have hexponent : 53 + (x.exponent.val - 1) ≤ n := by
    have hlt := x.exponent.isLt
    have hne : x.exponent.val ≠ 2047 := fun he => h (Fin.ext he)
    omega
  have hmagnitude : (x.magnitude : Int) < infinityUnits := by
    rw [infinityUnits_eq hn]
    exact Int.ofNat_lt.2
      (Nat.lt_of_lt_of_le x.magnitude_lt (Nat.pow_le_pow_right (by decide) hexponent))
  have hnonneg : (0 : Int) ≤ x.magnitude := Int.natCast_nonneg _
  have hpos := infinityUnits_pos
  unfold units
  split <;> constructor <;> linarith

/-- The units of a number count its value. -/
theorem counts_units {x : Binary64} (h : ¬ x.IsNaN) : Counts x.units x.value := by
  unfold value
  split
  · next hfinite =>
    have hunits := units_lt_infinityUnits hfinite
    exact .rational hunits.1 hunits.2 x.rational_mul_unitsPerOne
  · next hinfinite =>
    have hexponent : x.exponent = 2047 := not_not.1 hinfinite
    have hfraction : x.fraction = 0 := not_not.1 fun hf => h ⟨hexponent, hf⟩
    have hmagnitude : x.magnitude = (infinity false).magnitude :=
      magnitude_congr hexponent hfraction
    unfold units
    rw [hmagnitude, ← infinityUnits]
    split
    · exact .bot
    · exact .top

/-- The units of an integer of 64 bits count it. -/
theorem counts_int (i : Int64) : Counts (i.toInt * unitsPerOne) ((i.toInt : ℚ) : WithTop ℚ) := by
  obtain ⟨k, hk⟩ : ∃ k, 1024 = k := ⟨_, rfl⟩
  obtain ⟨n, hn⟩ : ∃ n, 1074 = n := ⟨_, rfl⟩
  have hinfinity : infinityUnits = (2 ^ k : Nat) * (unitsPerOne : Int) := by
    rw [infinityUnits_eq (n := k + n) (by omega), unitsPerOne_eq hn, ← Int.natCast_mul, Nat.pow_add]
  have hone : (0 : Int) < unitsPerOne := Int.natCast_pos.2 unitsPerOne_pos
  have hrange : (2 ^ 63 : Int) < (2 ^ k : Nat) :=
    Int.ofNat_lt.2 (Nat.pow_lt_pow_right (by decide) (by omega))
  have hlow := i.le_toInt
  have hhigh := i.toInt_lt
  refine .rational ?_ ?_ (by push_cast; rfl)
  · rw [hinfinity, ← Int.neg_mul]
    exact Int.mul_lt_mul_of_pos_right (by linarith) hone
  · rw [hinfinity]
    exact Int.mul_lt_mul_of_pos_right (Int.lt_trans hhigh hrange) hone

end RowQuery.Binary64
