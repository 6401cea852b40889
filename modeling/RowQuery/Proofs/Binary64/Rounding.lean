import RowQuery.Binary64.Rounding
import RowQuery.Proofs.Binary64.Value

/-!
# Rounding is monotone and exact

Of a quotient, rounding keeps the 53 leading bits in their place (`rounded`). A natural number of 53
bits at most, shifted, is `Representable`, and rounding a quotient does not cross it
(`Representable.le_rounded`, `Representable.rounded_le`). So rounding does not cross the
magnitude of a number either, and a number is the one nearest to its own value
(`Binary64.ofRatio_eq_self`). For integers this says that rounding is monotone
(`Binary64.units_le_units_ofInt`, `Binary64.units_ofInt_le_units`) and exact up to `2 ^ 53`
(`Binary64.units_ofInt_of_le`).
-/

namespace RowQuery

/-! ## Rounding to naturals -/

variable {num den num' den' k : Nat}

/-- The quotient, or the number above it. -/
theorem roundHalfEven_mem (num den : Nat) :
    roundHalfEven num den = num / den ∨ roundHalfEven num den = num / den + 1 := by
  unfold roundHalfEven
  dsimp only
  split
  · exact .inl rfl
  · exact .inr rfl

/-- Rounding does not fall below a natural number that the quotient reaches. -/
theorem le_roundHalfEven (hden : 0 < den) (h : k * den ≤ num) : k ≤ roundHalfEven num den := by
  have hquotient : k ≤ num / den := (Nat.le_div_iff_mul_le hden).2 h
  rcases roundHalfEven_mem num den with hr | hr <;> omega

/-- Rounding does not rise above a natural number that the quotient does not exceed. -/
theorem roundHalfEven_le (hden : 0 < den) (h : num ≤ k * den) : roundHalfEven num den ≤ k := by
  have hquotient : num / den ≤ k := Nat.div_le_of_le_mul (Nat.mul_comm k den ▸ h)
  rcases Nat.lt_or_eq_of_le hquotient with hlt | heq
  · rcases roundHalfEven_mem num den with hr | hr <;> omega
  · have hremainder : num % den = 0 := by
      have hsplit := Nat.div_add_mod num den
      rw [heq, Nat.mul_comm] at hsplit
      omega
    rw [roundHalfEven, if_pos (.inl (by omega)), heq]

/-- Equal quotients are rounded alike. -/
theorem roundHalfEven_congr (hden : 0 < den) (hden' : 0 < den') (h : num * den' = num' * den) :
    roundHalfEven num den = roundHalfEven num' den' := by
  have hquotient : num / den = num' / den' := by
    rw [← Nat.mul_div_mul_right num den hden', h, Nat.mul_comm den den',
      Nat.mul_div_mul_right num' den' hden]
  have hremainder : num % den * den' = num' % den' * den := by
    rw [← Nat.mul_mod_mul_right den' num den, h, Nat.mul_comm den den', Nat.mul_mod_mul_right]
  have hlt : 2 * (num % den) < den ↔ 2 * (num' % den') < den' := by
    rw [← Nat.mul_lt_mul_right hden', Nat.mul_assoc, hremainder, ← Nat.mul_assoc,
      Nat.mul_comm den den', Nat.mul_lt_mul_right hden]
  have heq : 2 * (num % den) = den ↔ 2 * (num' % den') = den' := by
    rw [← Nat.mul_left_inj (Nat.ne_of_gt hden'), Nat.mul_assoc, hremainder, ← Nat.mul_assoc,
      Nat.mul_comm den den', Nat.mul_left_inj (Nat.ne_of_gt hden)]
  simp only [roundHalfEven, hquotient, hlt, heq]

namespace Binary64

/-! ## Numbers by significand and shift -/

/-- The magnitude of an infinity, by a name for its exponent. -/
theorem magnitude_infinity (negative : Bool) {n : Nat} (h : 2046 = n) :
    (infinity negative).magnitude = 2 ^ 52 * 2 ^ n := by
  obtain ⟨e, he, hvalue⟩ : ∃ e, (infinity negative).exponent.val = e ∧ e = 2047 := ⟨_, rfl, rfl⟩
  have hfraction : (infinity negative).fraction.val = 0 := rfl
  rw [magnitude_of_normal (by omega), he, hfraction, Nat.add_zero]
  congr 2
  omega

/-- The fields of a number whose exponent is in range. -/
theorem val_ofFields (negative : Bool) {exponent : Nat} (fraction : Nat) (h : exponent < 2048) :
    (ofFields negative exponent fraction).exponent.val = exponent ∧
      (ofFields negative exponent fraction).fraction.val = fraction % 2 ^ 52 :=
  ⟨Nat.mod_eq_of_lt h, rfl⟩

/-- A carried significand is a power of two one binade up. -/
theorem ofSignificand_carry (negative : Bool) (shift : Nat) :
    ofSignificand negative (2 ^ 53) shift = ofSignificand negative (2 ^ 52) (shift + 1) := rfl

/-- The magnitude of a significand below `2 ^ 52`, which is not shifted. -/
theorem magnitude_ofSignificand_of_lt (negative : Bool) {significand : Nat} (shift : Nat)
    (h : significand < 2 ^ 52) :
    (ofSignificand negative significand shift).magnitude = significand := by
  obtain ⟨hexponent, hfraction⟩ := val_ofFields negative significand (show 0 < 2048 by decide)
  rw [ofSignificand, if_pos (show significand < Nat.pow 2 52 from h), magnitude, if_pos hexponent,
    hfraction, Nat.mod_eq_of_lt h]

/-- The magnitude of a significand with its leading bit at `2 ^ 52`, up to the infinity. -/
theorem magnitude_ofSignificand_of_normal (negative : Bool) {significand : Nat} (shift : Nat)
    (low : 2 ^ 52 ≤ significand) (high : significand < 2 ^ 53) :
    (ofSignificand negative significand shift).magnitude =
      min (significand * 2 ^ shift) (infinity negative).magnitude := by
  obtain ⟨n, hn⟩ : ∃ n, 2046 = n := ⟨_, rfl⟩
  have hcarried : (significand == Nat.pow 2 53) = false := by simpa using Nat.ne_of_lt high
  have hfields : ofSignificand negative significand shift =
      if shift + 1 < 2047 then ofFields negative (shift + 1) significand else infinity negative := by
    rw [ofSignificand, if_neg (show ¬ significand < Nat.pow 2 52 from Nat.not_lt.2 low), hcarried]
    rfl
  rw [hfields, magnitude_infinity negative hn]
  by_cases h : shift < n
  · have hrange : shift + 1 < 2047 := by omega
    obtain ⟨hexponent, hfraction⟩ := val_ofFields negative significand (Nat.lt_succ_of_lt hrange)
    have hbound : significand * 2 ^ shift ≤ 2 ^ 52 * 2 ^ n :=
      calc significand * 2 ^ shift ≤ 2 ^ 53 * 2 ^ shift := Nat.mul_le_mul_right _ (Nat.le_of_lt high)
        _ = 2 ^ 52 * 2 ^ (shift + 1) := by
          rw [Nat.pow_succ 2 shift, Nat.pow_succ 2 52, Nat.mul_assoc, Nat.mul_comm 2]
        _ ≤ 2 ^ 52 * 2 ^ n := Nat.mul_le_mul_left _ (Nat.pow_le_pow_right (by decide) h)
    rw [if_pos hrange, Nat.min_eq_left hbound, magnitude_of_normal (by omega), hexponent, hfraction]
    congr 1
    omega
  · have hrange : ¬ shift + 1 < 2047 := by omega
    have hbound : 2 ^ 52 * 2 ^ n ≤ significand * 2 ^ shift :=
      Nat.mul_le_mul low (Nat.pow_le_pow_right (by decide) (Nat.not_lt.1 h))
    rw [if_neg hrange, Nat.min_eq_right hbound, magnitude_infinity negative hn]

/-- The magnitude of a significand that is shifted, up to the infinity. -/
theorem magnitude_ofSignificand (negative : Bool) {significand shift : Nat}
    (bound : significand ≤ 2 ^ 53) (normal : 2 ^ 52 ≤ significand ∨ shift = 0) :
    (ofSignificand negative significand shift).magnitude =
      min (significand * 2 ^ shift) (infinity negative).magnitude := by
  rcases Nat.lt_or_ge significand (2 ^ 52) with hsmall | hlarge
  · obtain rfl : shift = 0 := normal.resolve_left (Nat.not_le.2 hsmall)
    obtain ⟨n, hn⟩ : ∃ n, 2046 = n := ⟨_, rfl⟩
    have hbound : significand ≤ 2 ^ 52 * 2 ^ n :=
      Nat.le_trans (Nat.le_of_lt hsmall) (Nat.le_mul_of_pos_right _ (Nat.two_pow_pos n))
    rw [magnitude_ofSignificand_of_lt negative 0 hsmall, magnitude_infinity negative hn,
      Nat.pow_zero, Nat.mul_one, Nat.min_eq_left hbound]
  · rcases Nat.lt_or_eq_of_le bound with hlt | rfl
    · exact magnitude_ofSignificand_of_normal negative shift hlarge hlt
    · rw [ofSignificand_carry, magnitude_ofSignificand_of_normal negative _ (Nat.le_refl _)
        (by decide), Nat.pow_succ 2 shift, Nat.pow_succ 2 52, Nat.mul_assoc, Nat.mul_comm 2]

/-! ## Leading bits of a quotient -/

/-- How far the 53 leading bits of a quotient stand above its units. -/
def leadingShift (num den : Nat) : Nat := (num / den).log2 - 52

/-- The 53 leading bits of a quotient, or all that it has, rounded. -/
def leadingBits (num den : Nat) : Nat := roundHalfEven num (den * 2 ^ leadingShift num den)

/-- What a quotient is rounded to: its leading bits in their place. -/
def rounded (num den : Nat) : Nat := leadingBits num den * 2 ^ leadingShift num den

/-- The number nearest to a quotient has its leading bits. -/
theorem ofRatio_eq (negative : Bool) (num den : Nat) :
    ofRatio negative num den = ofSignificand negative (leadingBits (num * unitsPerOne) den)
      (leadingShift (num * unitsPerOne) den) := rfl

/-- There are 53 leading bits at most, and one more after a carry. -/
theorem leadingBits_le (num : Nat) (hden : 0 < den) : leadingBits num den ≤ 2 ^ 53 := by
  have hquotient : num / den < 2 ^ (53 + leadingShift num den) :=
    Nat.lt_of_lt_of_le Nat.lt_log2_self
      (Nat.pow_le_pow_right (by decide) (by unfold leadingShift; omega))
  refine roundHalfEven_le (Nat.mul_pos hden (Nat.two_pow_pos _)) ?_
  rw [Nat.mul_left_comm, ← Nat.pow_add]
  rw [Nat.mul_comm]
  exact Nat.le_of_lt ((Nat.div_lt_iff_lt_mul hden).1 hquotient)

/-- A quotient that is shifted has its leading bit at `2 ^ 52` of the leading bits. -/
theorem le_of_leadingShift_ne_zero (h : leadingShift num den ≠ 0) :
    2 ^ (52 + leadingShift num den) ≤ num / den := by
  have hlog : (num / den).log2 = 52 + leadingShift num den := by
    unfold leadingShift at h ⊢
    omega
  have hne : num / den ≠ 0 := by
    intro hzero
    rw [hzero, Nat.log2_zero] at hlog
    omega
  exact hlog ▸ Nat.log2_self_le hne

/-- The leading bits of a quotient begin at `2 ^ 52`, unless it is not shifted. -/
theorem leadingBits_normal (hden : 0 < den) :
    2 ^ 52 ≤ leadingBits num den ∨ leadingShift num den = 0 := by
  by_cases h : leadingShift num den = 0
  · exact .inr h
  · refine .inl (le_roundHalfEven (Nat.mul_pos hden (Nat.two_pow_pos _)) ?_)
    rw [Nat.mul_left_comm, ← Nat.pow_add, Nat.mul_comm]
    exact (Nat.le_div_iff_mul_le hden).1 (le_of_leadingShift_ne_zero h)

/-- Equal quotients are shifted alike. -/
theorem leadingShift_congr (hden : 0 < den) (hden' : 0 < den') (h : num * den' = num' * den) :
    leadingShift num den = leadingShift num' den' := by
  rw [leadingShift, leadingShift, ← Nat.mul_div_mul_right num den hden', h, Nat.mul_comm den den',
    Nat.mul_div_mul_right num' den' hden]

/-- Equal quotients have the same leading bits. -/
theorem leadingBits_congr (hden : 0 < den) (hden' : 0 < den') (h : num * den' = num' * den) :
    leadingBits num den = leadingBits num' den' := by
  rw [leadingBits, leadingBits, leadingShift_congr hden hden' h]
  refine roundHalfEven_congr (Nat.mul_pos hden (Nat.two_pow_pos _))
    (Nat.mul_pos hden' (Nat.two_pow_pos _)) ?_
  rw [← Nat.mul_assoc, h, Nat.mul_assoc]

/-- A natural number of 53 bits at most, shifted. -/
def Representable (m : Nat) : Prop := ∃ significand shift, significand < 2 ^ 53 ∧
  m = significand * 2 ^ shift

/-- A representable number that reaches up to a leading bit is a multiple of the last one. -/
theorem Representable.dvd {m : Nat} (hm : Representable m) (h : 2 ^ (52 + k) ≤ m) : 2 ^ k ∣ m := by
  obtain ⟨significand, shift, hsignificand, rfl⟩ := hm
  refine Nat.dvd_mul_left_of_dvd (Nat.pow_dvd_pow 2 (Nat.not_lt.1 fun hlt => ?_)) _
  have hupper : significand * 2 ^ shift < 2 ^ (52 + k) :=
    calc significand * 2 ^ shift < 2 ^ 53 * 2 ^ shift :=
          Nat.mul_lt_mul_of_pos_right hsignificand (Nat.two_pow_pos shift)
      _ = 2 ^ (53 + shift) := (Nat.pow_add 2 53 shift).symm
      _ ≤ 2 ^ (52 + k) := Nat.pow_le_pow_right (by decide) (by omega)
  exact Nat.not_le.2 hupper h

/-- Rounding a quotient does not fall below a representable number that it reaches. -/
theorem Representable.le_rounded {m : Nat} (hm : Representable m) (hden : 0 < den)
    (h : m * den ≤ num) : m ≤ rounded num den := by
  unfold rounded
  have hmultiple : 2 ^ leadingShift num den ∣ m →
      m ≤ leadingBits num den * 2 ^ leadingShift num den := by
    rintro ⟨c, rfl⟩
    rw [Nat.mul_comm]
    refine Nat.mul_le_mul_right _ (le_roundHalfEven (Nat.mul_pos hden (Nat.two_pow_pos _)) ?_)
    rwa [Nat.mul_comm den, ← Nat.mul_assoc, Nat.mul_comm c]
  have hbits : 2 ^ 52 ≤ leadingBits num den ∨ leadingShift num den = 0 := leadingBits_normal hden
  rcases hbits with hnormal | hzero
  · rcases Nat.le_total (2 ^ (52 + leadingShift num den)) m with hlarge | hsmall
    · exact hmultiple (hm.dvd hlarge)
    · rw [Nat.pow_add] at hsmall
      exact Nat.le_trans hsmall (Nat.mul_le_mul_right _ hnormal)
  · exact hmultiple (hzero ▸ Nat.one_dvd m)

/-- Rounding a quotient does not rise above a representable number that it does not exceed. -/
theorem Representable.rounded_le {m : Nat} (hm : Representable m) (hden : 0 < den)
    (h : num ≤ m * den) : rounded num den ≤ m := by
  have hdvd : 2 ^ leadingShift num den ∣ m := by
    by_cases hzero : leadingShift num den = 0
    · exact hzero ▸ Nat.one_dvd m
    · exact hm.dvd (Nat.le_trans (le_of_leadingShift_ne_zero hzero)
        (Nat.div_le_of_le_mul (Nat.mul_comm m den ▸ h)))
  obtain ⟨c, rfl⟩ := hdvd
  rw [rounded, Nat.mul_comm]
  refine Nat.mul_le_mul_left _ (roundHalfEven_le (Nat.mul_pos hden (Nat.two_pow_pos _)) ?_)
  rwa [Nat.mul_comm den, ← Nat.mul_assoc, Nat.mul_comm c]

/-! ## Rounding quotients -/

variable {negative : Bool}

/-- The magnitude of the number nearest to a quotient, up to the infinity. -/
theorem magnitude_ofRatio (hden : 0 < den) : (ofRatio negative num den).magnitude =
    min (rounded (num * unitsPerOne) den) (infinity negative).magnitude :=
  magnitude_ofSignificand negative (leadingBits_le _ hden) (leadingBits_normal hden)

/-- Rounding to a number does not fall below a magnitude that the quotient reaches. -/
theorem le_magnitude_ofRatio {m : Nat} (hm : Representable m)
    (hinfinity : m ≤ (infinity negative).magnitude) (hden : 0 < den)
    (h : m * den ≤ num * unitsPerOne) : m ≤ (ofRatio negative num den).magnitude := by
  rw [magnitude_ofRatio hden]
  exact Nat.le_min.2 ⟨hm.le_rounded hden h, hinfinity⟩

/-- Rounding to a number does not rise above a magnitude that the quotient does not exceed. -/
theorem magnitude_ofRatio_le {m : Nat} (hm : Representable m) (hden : 0 < den)
    (h : num * unitsPerOne ≤ m * den) : (ofRatio negative num den).magnitude ≤ m := by
  rw [magnitude_ofRatio hden]
  exact Nat.le_trans (Nat.min_le_left _ _) (hm.rounded_le hden h)

/-- Equal quotients are rounded to one number. -/
theorem ofRatio_congr (hden : 0 < den) (hden' : 0 < den') (h : num * den' = num' * den) :
    ofRatio negative num den = ofRatio negative num' den' := by
  have hunits : num * unitsPerOne * den' = num' * unitsPerOne * den := by
    rw [Nat.mul_right_comm, h, Nat.mul_right_comm]
  rw [ofRatio_eq, ofRatio_eq, leadingBits_congr hden hden' hunits,
    leadingShift_congr hden hden' hunits]

/-! ## Numbers and their magnitudes -/

/-- The magnitude of a number is representable. -/
theorem representable_magnitude (x : Binary64) : Representable x.magnitude := by
  have hfraction : x.fraction.val < 2 ^ 52 := x.fraction.isLt
  by_cases h : x.exponent.val = 0
  · refine ⟨x.fraction.val, 0, by omega, ?_⟩
    rw [magnitude, if_pos h, Nat.pow_zero, Nat.mul_one]
  · exact ⟨2 ^ 52 + x.fraction.val, x.exponent.val - 1, by omega, magnitude_of_normal h⟩

/-- The magnitude of a number is that of an infinity at most. -/
theorem magnitude_le_infinity {x : Binary64} (h : ¬ x.IsNaN) (negative : Bool) :
    x.magnitude ≤ (infinity negative).magnitude := by
  by_cases hfinite : x.IsFinite
  · have hunits := units_lt_infinityUnits hfinite
    have hmagnitude : (x.magnitude : Int) < (infinity negative).magnitude := by
      unfold units infinityUnits at hunits
      have hsame : (infinity negative).magnitude = (infinity false).magnitude :=
        magnitude_congr rfl rfl
      rw [hsame]
      split at hunits <;> omega
    omega
  · have hexponent : x.exponent = 2047 := not_not.1 hfinite
    have hfraction : x.fraction = 0 := not_not.1 fun hf => h ⟨hexponent, hf⟩
    exact Nat.le_of_eq (magnitude_congr hexponent hfraction)

/-- A significand that is shifted makes a number of the sign that is given. -/
theorem negative_ofSignificand (negative : Bool) (significand shift : Nat) :
    (ofSignificand negative significand shift).negative = negative := by
  unfold ofSignificand
  split
  · rfl
  · exact (apply_ite Binary64.negative _ _ _).trans (ite_self negative)

/-- A significand that is shifted makes a number. -/
theorem not_isNaN_ofSignificand (negative : Bool) (significand shift : Nat) :
    ¬ (ofSignificand negative significand shift).IsNaN := by
  have hfields {exponent fraction : Nat} (h : exponent < 2047) :
      ¬ (ofFields negative exponent fraction).IsNaN := by
    rintro ⟨hexponent, -⟩
    have hval := congrArg Fin.val hexponent
    rw [(val_ofFields negative fraction (Nat.lt_succ_of_lt h)).1] at hval
    exact Nat.ne_of_lt h hval
  have hnormal (exponent : Nat) : ¬ (if exponent < 2047 then ofFields negative exponent significand
      else infinity negative).IsNaN := by
    split
    · next h => exact hfields h
    · exact fun h => h.2 rfl
  unfold ofSignificand
  split
  · exact hfields (by decide)
  · exact hnormal _

/-- A number of a lower exponent has a lower magnitude. -/
theorem magnitude_lt_of_exponent_lt {x y : Binary64} (h : x.exponent.val < y.exponent.val) :
    x.magnitude < y.magnitude := by
  have hx : x.fraction.val < 2 ^ 52 := x.fraction.isLt
  have hpow {k : Nat} (hk : k ≤ y.exponent.val - 1) :
      2 ^ 52 * 2 ^ k ≤ (2 ^ 52 + y.fraction.val) * 2 ^ (y.exponent.val - 1) :=
    Nat.mul_le_mul (Nat.le_add_right _ _) (Nat.pow_le_pow_right (by decide) hk)
  rw [magnitude_of_normal (x := y) (by omega)]
  by_cases hzero : x.exponent.val = 0
  · rw [magnitude, if_pos hzero]
    exact Nat.lt_of_lt_of_le hx (hpow (Nat.zero_le _))
  · have hbinade := hpow (k := 53 + (x.exponent.val - 1) - 52) (by omega)
    rw [← Nat.pow_add, Nat.add_sub_of_le (by omega)] at hbinade
    exact Nat.lt_of_lt_of_le x.magnitude_lt hbinade

/-- Numbers of one magnitude and one sign are one. -/
theorem eq_of_magnitude {x y : Binary64} (hnegative : x.negative = y.negative)
    (h : x.magnitude = y.magnitude) : x = y := by
  have hexponent : x.exponent.val = y.exponent.val := by
    rcases Nat.lt_trichotomy x.exponent.val y.exponent.val with hlt | heq | hgt
    · exact absurd h (Nat.ne_of_lt (magnitude_lt_of_exponent_lt hlt))
    · exact heq
    · exact absurd h.symm (Nat.ne_of_lt (magnitude_lt_of_exponent_lt hgt))
  have hfraction : x.fraction.val = y.fraction.val := by
    unfold magnitude at h
    rw [hexponent] at h
    split at h
    · exact h
    · exact Nat.add_left_cancel (Nat.eq_of_mul_eq_mul_right (Nat.two_pow_pos _) h)
  cases x
  cases y
  cases hnegative
  cases Fin.ext hexponent
  cases Fin.ext hfraction
  rfl

/-- A finite number is the one nearest to its value. -/
theorem ofRatio_eq_self {x : Binary64} (hfinite : x.IsFinite) (hden : 0 < den)
    (h : num * unitsPerOne = x.magnitude * den) : ofRatio x.negative num den = x := by
  refine eq_of_magnitude (negative_ofSignificand _ _ _) (Nat.le_antisymm ?_ ?_)
  · exact magnitude_ofRatio_le x.representable_magnitude hden (Nat.le_of_eq h)
  · exact le_magnitude_ofRatio x.representable_magnitude
      (magnitude_le_infinity (fun hnan => hfinite hnan.1) _) hden (Nat.le_of_eq h.symm)

/-! ## Rounding integers -/

/-- An integer is rounded to a number. -/
theorem not_isNaN_ofInt (i : Int) : ¬ (ofInt i).IsNaN := not_isNaN_ofSignificand _ _ _

/-- The number nearest to an integer has the sign of the integer. -/
theorem units_ofInt (i : Int) : (ofInt i).units =
    if i < 0 then -((ofInt i).magnitude : Int) else (ofInt i).magnitude := by
  have hnegative : (ofInt i).negative = decide (i < 0) := negative_ofSignificand _ _ _
  rw [units, hnegative]
  simp only [decide_eq_true_eq]

/-- The units of a number are its magnitude with a sign. -/
theorem units_eq_or (x : Binary64) : x.units = x.magnitude ∨ x.units = -(x.magnitude : Int) := by
  unfold units
  split
  · exact .inr rfl
  · exact .inl rfl

/-- Rounding an integer keeps its absolute value above the magnitudes that it reaches. -/
theorem magnitude_le_magnitude_ofInt {x : Binary64} (hx : ¬ x.IsNaN) {i : Int}
    (h : x.magnitude ≤ i.natAbs * unitsPerOne) : x.magnitude ≤ (ofInt i).magnitude :=
  le_magnitude_ofRatio x.representable_magnitude (magnitude_le_infinity hx _) Nat.one_pos
    (by rwa [Nat.mul_one])

/-- Rounding an integer keeps its absolute value below the magnitudes that it does not exceed. -/
theorem magnitude_ofInt_le_magnitude {x : Binary64} {i : Int}
    (h : i.natAbs * unitsPerOne ≤ x.magnitude) : (ofInt i).magnitude ≤ x.magnitude :=
  magnitude_ofRatio_le x.representable_magnitude Nat.one_pos (by rwa [Nat.mul_one])

/-- An integer in units, by its absolute value. -/
theorem mul_unitsPerOne_eq (i : Int) : i * unitsPerOne =
    if i < 0 then -((i.natAbs * unitsPerOne : Nat) : Int) else (i.natAbs * unitsPerOne : Nat) := by
  rw [Int.natCast_mul]
  split
  · rw [← Int.neg_mul]
    congr 1
    omega
  · congr 1
    omega

/-- Rounding an integer does not take it below a number that it reaches. -/
theorem units_le_units_ofInt {x : Binary64} (hx : ¬ x.IsNaN) {i : Int}
    (h : x.units ≤ i * unitsPerOne) : x.units ≤ (ofInt i).units := by
  have hpos := unitsPerOne_pos
  rw [mul_unitsPerOne_eq] at h
  rw [units_ofInt]
  split
  · next hi =>
    have habs : 0 < i.natAbs * unitsPerOne := Nat.mul_pos (by omega) hpos
    rw [if_pos hi] at h
    have hmagnitude := magnitude_ofInt_le_magnitude (x := x) (i := i)
    rcases x.units_eq_or with hunits | hunits <;> rw [hunits] at h ⊢ <;> omega
  · next hi =>
    rw [if_neg hi] at h
    have hmagnitude := magnitude_le_magnitude_ofInt hx (i := i)
    rcases x.units_eq_or with hunits | hunits <;> rw [hunits] at h ⊢ <;> omega

/-- Rounding an integer does not take it above a number that it does not exceed. -/
theorem units_ofInt_le_units {x : Binary64} (hx : ¬ x.IsNaN) {i : Int}
    (h : i * unitsPerOne ≤ x.units) : (ofInt i).units ≤ x.units := by
  have hpos := unitsPerOne_pos
  rw [mul_unitsPerOne_eq] at h
  rw [units_ofInt]
  split
  · next hi =>
    rw [if_pos hi] at h
    have hmagnitude := magnitude_le_magnitude_ofInt hx (i := i)
    rcases x.units_eq_or with hunits | hunits <;> rw [hunits] at h ⊢ <;> omega
  · next hi =>
    rw [if_neg hi] at h
    have hmagnitude := magnitude_ofInt_le_magnitude (x := x) (i := i)
    rcases x.units_eq_or with hunits | hunits <;> rw [hunits] at h ⊢ <;> omega

/-- An integer of 53 bits at most is a number. -/
theorem units_ofInt_of_le {i : Int} (h : i.natAbs ≤ 2 ^ 53) :
    (ofInt i).units = i * unitsPerOne := by
  obtain ⟨k, hk⟩ : ∃ k, 1074 = k := ⟨_, rfl⟩
  obtain ⟨n, hn⟩ : ∃ n, 2046 = n := ⟨_, rfl⟩
  have hrepresentable : Representable (i.natAbs * unitsPerOne) := by
    rw [unitsPerOne_eq hk]
    rcases Nat.lt_or_eq_of_le h with hlt | heq
    · exact ⟨i.natAbs, k, hlt, rfl⟩
    · exact ⟨1, 53 + k, by decide, by rw [heq, ← Nat.pow_add, Nat.one_mul]⟩
  have hinfinity : i.natAbs * unitsPerOne ≤ (infinity (decide (i < 0))).magnitude := by
    rw [magnitude_infinity _ hn, unitsPerOne_eq hk, ← Nat.pow_add]
    refine Nat.le_trans (Nat.mul_le_mul_right _ h) ?_
    rw [← Nat.pow_add]
    exact Nat.pow_le_pow_right (by decide) (by omega)
  have hmagnitude : (ofInt i).magnitude = i.natAbs * unitsPerOne := Nat.le_antisymm
    (magnitude_ofRatio_le hrepresentable Nat.one_pos (by rw [Nat.mul_one]))
    (le_magnitude_ofRatio hrepresentable hinfinity Nat.one_pos (by rw [Nat.mul_one]))
  rw [units_ofInt, hmagnitude, mul_unitsPerOne_eq]

end Binary64

end RowQuery
