import Mathlib.Algebra.Order.Field.Basic
import Mathlib.Data.Nat.Cast.Order.Field
import Mathlib.Tactic.Positivity
import RowQuery.Proofs.Binary64.Rounding

/-!
# Rounding is to the nearest

A quotient is rounded to the representable number that is nearest to it
(`Representable.abs_rounded_sub_le`), so what it is rounded to grows with it (`rounded_mono`). Of
two representable numbers each is at most `2 ^ 53` times their distance
(`Representable.le_mul_abs_sub`). So what is close enough to the magnitude of a number is rounded to
that number (`ofRatio_eq_of_near`).
-/

namespace RowQuery

variable {num den num' den' k : Nat}

/-! ## Natural numbers -/

/-- A quotient is its natural part and a fraction. -/
theorem cast_div_eq (num : Nat) (hden : 0 < den) :
    (num : ℚ) / den = (num / den : ℕ) + (num % den : ℕ) / (den : ℚ) := by
  have hne : (den : ℚ) ≠ 0 := Nat.cast_ne_zero.2 hden.ne'
  rw [eq_comm, ← mul_left_inj' hne, add_mul, div_mul_cancel₀ _ hne, div_mul_cancel₀ _ hne, mul_comm]
  exact_mod_cast Nat.div_add_mod num den

/-- Rounding moves a quotient by one half at most. -/
theorem abs_roundHalfEven_sub_le (num : Nat) (hden : 0 < den) :
    |(roundHalfEven num den : ℚ) - num / den| ≤ 1 / 2 := by
  have hpos : (0 : ℚ) < den := Nat.cast_pos.2 hden
  have hlt : ((num % den : ℕ) : ℚ) < den := Nat.cast_lt.2 (Nat.mod_lt num hden)
  have hquotient := cast_div_eq num hden
  unfold roundHalfEven
  dsimp only
  split
  · next h =>
    have hbelow : ((num % den : ℕ) : ℚ) / den ≤ 1 / 2 := by
      rw [div_le_iff₀ hpos]
      have hdouble : ((2 * (num % den) : ℕ) : ℚ) ≤ den := Nat.cast_le.2 (by omega)
      push_cast at hdouble
      linarith
    have hnonneg : (0 : ℚ) ≤ ((num % den : ℕ) : ℚ) / den := by positivity
    rw [hquotient, abs_le]
    constructor <;> linarith
  · next h =>
    have habove : 1 / 2 ≤ ((num % den : ℕ) : ℚ) / den := by
      rw [le_div_iff₀ hpos]
      have hdouble : (den : ℚ) ≤ (2 * (num % den) : ℕ) := Nat.cast_le.2 (by omega)
      push_cast at hdouble
      linarith
    have hbound : ((num % den : ℕ) : ℚ) / den < 1 := (div_lt_one hpos).2 hlt
    rw [hquotient, Nat.cast_add, Nat.cast_one, abs_le]
    constructor <;> linarith

/-- No natural number is nearer to a quotient than what it is rounded to. -/
theorem abs_roundHalfEven_sub_le_abs (hden : 0 < den) (c : Nat) :
    |(roundHalfEven num den : ℚ) - num / den| ≤ |(c : ℚ) - num / den| := by
  by_cases hc : c = roundHalfEven num den
  · rw [hc]
  · have hone : (1 : ℚ) ≤ |(c : ℚ) - roundHalfEven num den| := by
      have hdiffer : (c : ℤ) - roundHalfEven num den ≠ 0 := by omega
      exact_mod_cast Int.one_le_abs hdiffer
    have htriangle := abs_sub_le (c : ℚ) (num / den) (roundHalfEven num den)
    rw [abs_sub_comm ((num : ℚ) / den)] at htriangle
    have hhalf := abs_roundHalfEven_sub_le num hden
    linarith

namespace Binary64

/-! ## Representable numbers -/

/-- Equal quotients are rounded alike. -/
theorem rounded_congr (hden : 0 < den) (hden' : 0 < den') (h : num * den' = num' * den) :
    rounded num den = rounded num' den' := by
  rw [rounded, rounded, leadingBits_congr hden hden' h, leadingShift_congr hden hden' h]

/-- What a quotient is rounded to is representable, also after a carry. -/
theorem representable_rounded (num : Nat) (hden : 0 < den) : Representable (rounded num den) := by
  rcases Nat.lt_or_eq_of_le (leadingBits_le num hden) with hlt | heq
  · exact ⟨_, _, hlt, rfl⟩
  · refine ⟨2 ^ 52, leadingShift num den + 1, by decide, ?_⟩
    rw [rounded, heq, Nat.pow_succ 2 (leadingShift num den), Nat.pow_succ 2 52, Nat.mul_assoc,
      Nat.mul_comm 2]

/-- No multiple of the last of the leading bits is nearer to a quotient than what it is rounded
to. -/
theorem abs_rounded_sub_le_of_dvd (num : Nat) (hden : 0 < den) {m : Nat}
    (hm : 2 ^ leadingShift num den ∣ m) :
    |(rounded num den : ℚ) - num / den| ≤ |(m : ℚ) - num / den| := by
  obtain ⟨c, rfl⟩ := hm
  have hshift : (0 : ℚ) < 2 ^ leadingShift num den := by positivity
  have hscaled (b : Nat) : |((b * 2 ^ leadingShift num den : ℕ) : ℚ) - num / den| =
      |(b : ℚ) - num / (den * 2 ^ leadingShift num den : ℕ)| * 2 ^ leadingShift num den := by
    rw [← abs_of_pos hshift, ← abs_mul, sub_mul]
    congr 1
    push_cast
    field_simp
  rw [Nat.mul_comm, rounded, hscaled, hscaled]
  exact mul_le_mul_of_nonneg_right
    (abs_roundHalfEven_sub_le_abs (Nat.mul_pos hden (Nat.two_pow_pos _)) c) hshift.le

/-- No representable number is nearer to a quotient than what it is rounded to. -/
theorem Representable.abs_rounded_sub_le {m : Nat} (hm : Representable m) (num : Nat)
    (hden : 0 < den) :
    |(rounded num den : ℚ) - num / den| ≤ |(m : ℚ) - num / den| := by
  rcases Nat.lt_or_ge m (2 ^ (52 + leadingShift num den)) with hsmall | hlarge
  · by_cases hzero : leadingShift num den = 0
    · exact abs_rounded_sub_le_of_dvd num hden (hzero ▸ Nat.one_dvd m)
    -- below the leading bit of the quotient, that bit alone is nearer
    · have hbit := abs_rounded_sub_le_of_dvd num hden
        (Nat.pow_dvd_pow 2 (Nat.le_add_left (leadingShift num den) 52))
      have hreached : ((2 ^ (52 + leadingShift num den) : ℕ) : ℚ) ≤ num / den :=
        (Nat.cast_le.2 (le_of_leadingShift_ne_zero hzero)).trans Nat.cast_div_le
      have hbelow : (m : ℚ) ≤ (2 ^ (52 + leadingShift num den) : ℕ) := Nat.cast_le.2 hsmall.le
      refine hbit.trans ?_
      rw [abs_sub_comm, abs_sub_comm (m : ℚ), abs_of_nonneg (sub_nonneg.2 hreached),
        abs_of_nonneg (sub_nonneg.2 (hbelow.trans hreached))]
      exact sub_le_sub_left hbelow _
  · exact abs_rounded_sub_le_of_dvd num hden (hm.dvd hlarge)

/-- Rounding is monotone. -/
theorem rounded_mono (hden : 0 < den) (hden' : 0 < den') (h : num * den' ≤ num' * den) :
    rounded num den ≤ rounded num' den' := by
  by_contra hlt
  rw [Nat.not_le] at hlt
  have hr := representable_rounded num hden
  have hr' := representable_rounded num' hden'
  have hpos : (0 : ℚ) < den := Nat.cast_pos.2 hden
  have hpos' : (0 : ℚ) < den' := Nat.cast_pos.2 hden'
  have hvalues : (num : ℚ) / den ≤ num' / den' := by
    rw [div_le_div_iff₀ hpos hpos']
    exact_mod_cast h
  -- both quotients lie strictly between what they are rounded to
  have hlow : (rounded num' den' : ℚ) < num / den := by
    rw [lt_div_iff₀ hpos]
    exact_mod_cast Nat.not_le.1 fun hle => Nat.not_le.2 hlt (hr'.rounded_le hden hle)
  have hhigh : (num' : ℚ) / den' < rounded num den := by
    rw [div_lt_iff₀ hpos']
    exact_mod_cast Nat.not_le.1 fun hle => Nat.not_le.2 hlt (hr.le_rounded hden' hle)
  have hnear := hr'.abs_rounded_sub_le num hden
  have hnear' := hr.abs_rounded_sub_le num' hden'
  rw [abs_of_nonneg (by linarith), abs_sub_comm, abs_of_nonneg (by linarith)] at hnear
  rw [abs_sub_comm, abs_of_nonneg (by linarith), abs_of_nonneg (by linarith)] at hnear'
  have heq : (num : ℚ) / den = num' / den' := by linarith
  rw [div_eq_div_iff hpos.ne' hpos'.ne'] at heq
  exact Nat.ne_of_gt hlt (rounded_congr hden hden' (by exact_mod_cast heq))

/-! ## Distances -/

/-- The place of the last of 53 bits of a natural number, the first of them its leading bit; a
number of fewer bits has its last bit at zero. -/
theorem exists_binade (m : Nat) : ∃ k, m < 2 ^ 53 * 2 ^ k ∧ (2 ^ (52 + k) ≤ m ∨ k = 0) := by
  refine ⟨m.log2 - 52, ?_, ?_⟩
  · rw [← Nat.pow_add]
    exact Nat.lt_of_lt_of_le Nat.lt_log2_self (Nat.pow_le_pow_right (by decide) (by omega))
  · rcases Nat.lt_or_ge 52 m.log2 with hlt | hge
    · rw [Nat.add_sub_of_le hlt.le]
      exact .inl (Nat.log2_self_le fun hzero => by rw [hzero, Nat.log2_zero] at hlt; omega)
    · exact .inr (by omega)

/-- A representable number is at most `2 ^ 53` times the distance to one above it. -/
theorem Representable.le_mul_sub_of_lt {m r : Nat} (hm : Representable m) (hr : Representable r)
    (h : m < r) : m ≤ 2 ^ 53 * (r - m) := by
  obtain ⟨k, hupper, hlower⟩ := exists_binade m
  have hdvd : 2 ^ k ∣ r - m := by
    rcases hlower with hlower | rfl
    · exact Nat.dvd_sub (hr.dvd (hlower.trans h.le)) (hm.dvd hlower)
    · exact Nat.one_dvd _
  exact hupper.le.trans (Nat.mul_le_mul_left _ (Nat.le_of_dvd (Nat.sub_pos_of_lt h) hdvd))

/-- A representable number is at most `2 ^ 53` times the distance to one below it. -/
theorem Representable.le_mul_sub_of_gt {m r : Nat} (hm : Representable m) (hr : Representable r)
    (h : r < m) : m ≤ 2 ^ 53 * (m - r) := by
  obtain ⟨k, hupper, hlower⟩ := exists_binade m
  have hpos : 0 < m - r := Nat.sub_pos_of_lt h
  rcases k with _ | k
  · exact hupper.le.trans (Nat.mul_le_mul_left _ hpos)
  have hlower : 2 ^ (52 + (k + 1)) ≤ m := hlower.resolve_right (Nat.succ_ne_zero k)
  rcases Nat.lt_or_ge r (2 ^ (52 + (k + 1))) with hbelow | hreached
  · rcases Nat.lt_or_eq_of_le hlower with habove | rfl
    -- the power of two lies between them, a multiple of the last bit of the one above
    · have hdvd : 2 ^ (k + 1) ∣ m - 2 ^ (52 + (k + 1)) :=
        Nat.dvd_sub (hm.dvd hlower) (Nat.pow_dvd_pow 2 (Nat.le_add_left _ 52))
      have hstep : 2 ^ (k + 1) ≤ m - r :=
        (Nat.le_of_dvd (Nat.sub_pos_of_lt habove) hdvd).trans (Nat.sub_le_sub_left hbelow.le m)
      exact hupper.le.trans (Nat.mul_le_mul_left _ hstep)
    -- numbers below a power of two have one bit more behind the point than those above it
    · have hstep : 2 ^ k ≤ 2 ^ (52 + (k + 1)) - r := by
        rcases Nat.lt_or_ge r (2 ^ (52 + k)) with hlow | hhigh
        · have hdouble : 2 ^ (52 + (k + 1)) = 2 ^ (52 + k) + 2 ^ (52 + k) := by
            rw [← Nat.add_assoc, Nat.pow_succ, Nat.mul_two]
          have hle : 2 ^ k ≤ 2 ^ (52 + k) := Nat.pow_le_pow_right (by decide) (Nat.le_add_left k 52)
          omega
        · exact Nat.le_of_dvd hpos
            (Nat.dvd_sub (Nat.pow_dvd_pow 2 (by omega)) (hr.dvd hhigh))
      refine Nat.le_trans (Nat.le_of_eq ?_) (Nat.mul_le_mul_left _ hstep)
      rw [← Nat.pow_add]
      congr 1
      omega
  · exact hupper.le.trans (Nat.mul_le_mul_left _
      (Nat.le_of_dvd hpos (Nat.dvd_sub (hm.dvd hlower) (hr.dvd hreached))))

/-- A representable number is at most `2 ^ 53` times the distance to another one. -/
theorem Representable.le_mul_abs_sub {m r : Nat} (hm : Representable m) (hr : Representable r)
    (h : r ≠ m) : (m : ℚ) ≤ 2 ^ 53 * |(r : ℚ) - m| := by
  rcases Nat.lt_or_gt_of_ne h with hlt | hgt
  · have hle := hm.le_mul_sub_of_gt hr hlt
    rw [abs_sub_comm, abs_of_nonneg (sub_nonneg.2 (Nat.cast_le.2 hlt.le)), ← Nat.cast_sub hlt.le]
    exact_mod_cast hle
  · have hle := hm.le_mul_sub_of_lt hr hgt
    rw [abs_of_nonneg (sub_nonneg.2 (Nat.cast_le.2 hgt.le)), ← Nat.cast_sub hgt.le]
    exact_mod_cast hle

/-- A quotient that is much nearer to the magnitude of a number than other magnitudes are is rounded
to the number. -/
theorem ofRatio_eq_of_near {x : Binary64} (hfinite : x.IsFinite) (hden : 0 < den)
    (h : 2 ^ 54 * |(x.magnitude : ℚ) - (num * unitsPerOne : ℕ) / den| < x.magnitude) :
    ofRatio x.negative num den = x := by
  have hm := representable_magnitude x
  have hrounded : rounded (num * unitsPerOne) den = x.magnitude := by
    by_contra hne
    have hgap := hm.le_mul_abs_sub (representable_rounded _ hden) hne
    have hnear := hm.abs_rounded_sub_le (num * unitsPerOne) hden
    have htriangle := abs_sub_le (rounded (num * unitsPerOne) den : ℚ)
      ((num * unitsPerOne : ℕ) / den) x.magnitude
    rw [abs_sub_comm (((num * unitsPerOne : ℕ) : ℚ) / den)] at htriangle
    linarith
  refine eq_of_magnitude (negative_ofSignificand _ _ _) ?_
  rw [magnitude_ofRatio hden, hrounded]
  exact Nat.min_eq_left (magnitude_le_infinity (fun hnan => hfinite hnan.1) _)

/-- The magnitude of the number nearest to a quotient grows with the quotient. -/
theorem magnitude_ofRatio_mono {negative : Bool} (hden : 0 < den) (hden' : 0 < den')
    (h : num * den' ≤ num' * den) :
    (ofRatio negative num den).magnitude ≤ (ofRatio negative num' den').magnitude := by
  rw [magnitude_ofRatio hden, magnitude_ofRatio hden']
  refine min_le_min_right _ (rounded_mono hden hden' ?_)
  rw [Nat.mul_right_comm, Nat.mul_right_comm num']
  exact Nat.mul_le_mul_right _ h

end Binary64

end RowQuery
