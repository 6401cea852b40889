import Mathlib
import RowQuery.Proofs.Binary64.Decimal
import RowQuery.Proofs.Binary64.Nearest

/-!
# The shortest decimal that identifies a number

`Binary64.IsShortest` says which decimal a finite number other than zero is written as: one that is
read as the number, of the fewest digits, and of those the nearest to the number, the greater one of
two. There is one such decimal (`Binary64.IsShortest.unique`), and it is the one that is written
(`Binary64.isShortest_shortest`).

What lies between a decimal that is read as the number and the number is read as the number too
(`Binary64.ReadsBack.of_between`). So a grid of decimals holds one that is read as the number if and
only if one of the two neighbours of the number is, and no other one in the grid is nearer.
-/

namespace RowQuery

/-- The number of digits of a decimal. -/
def Decimal.length (d : Decimal) : Nat := (Nat.toDigits 10 d.digits).length

namespace Binary64

variable {x : Binary64} {d d' d'' : Decimal}

/-! ## The specification -/

/-- A decimal is at least as near to the absolute value of a number as another one, and not below it
if it is equally near. -/
def NoFarther (x : Binary64) (d d' : Decimal) : Prop :=
  |d.value - x.modulus| < |d'.value - x.modulus| ∨
    |d.value - x.modulus| = |d'.value - x.modulus| ∧ d'.value ≤ d.value

/-- The decimal that a finite number other than zero is written as. -/
structure IsShortest (x : Binary64) (d : Decimal) : Prop where
  /-- It is read as the number. -/
  readsBack : x.ReadsBack d
  /-- There are no zeros behind its digits. -/
  stripped : d.digits % 10 ≠ 0
  /-- No decimal that is read as the number has fewer digits. -/
  fewest : ∀ d', x.ReadsBack d' → d.length ≤ d'.length
  /-- No decimal that is read as the number and has as many digits is nearer to it. -/
  nearest : ∀ d', x.ReadsBack d' → d'.length = d.length → x.NoFarther d d'

namespace NoFarther

/-- A decimal is no farther than one of the same value. -/
theorem of_value_eq (h : d.value = d'.value) : x.NoFarther d d' := by
  unfold NoFarther
  rw [h]
  exact .inr ⟨rfl, le_rfl⟩

/-- Below a number the greater decimal is nearer. -/
theorem of_below (h : d'.value ≤ d.value) (hx : d.value ≤ x.modulus) : x.NoFarther d d' := by
  unfold NoFarther
  rw [abs_of_nonpos (by linarith), abs_of_nonpos (by linarith)]
  rcases h.lt_or_eq with hlt | heq
  · exact .inl (by linarith)
  · exact .inr ⟨by rw [heq], h⟩

/-- Above a number the lower decimal is nearer. -/
theorem of_above (hx : x.modulus ≤ d.value) (h : d.value ≤ d'.value) : x.NoFarther d d' := by
  unfold NoFarther
  rw [abs_of_nonneg (by linarith), abs_of_nonneg (by linarith)]
  rcases h.lt_or_eq with hlt | heq
  · exact .inl (by linarith)
  · exact .inr ⟨by rw [heq], heq.ge⟩

/-- What is no farther than what is no farther is no farther. -/
theorem trans (h : x.NoFarther d d') (h' : x.NoFarther d' d'') : x.NoFarther d d'' := by
  unfold NoFarther at *
  rcases h with hlt | ⟨heq, hle⟩
  · rcases h' with hlt' | ⟨heq', -⟩
    · exact .inl (hlt.trans hlt')
    · exact .inl (heq' ▸ hlt)
  · rcases h' with hlt' | ⟨heq', hle'⟩
    · exact .inl (heq ▸ hlt')
    · exact .inr ⟨heq.trans heq', hle'.trans hle⟩

/-- Two decimals that are no farther than each other have one value. -/
theorem antisymm (h : x.NoFarther d d') (h' : x.NoFarther d' d) : d.value = d'.value := by
  unfold NoFarther at *
  rcases h with hlt | ⟨heq, hle⟩
  · exact (h'.elim (lt_asymm hlt) fun h' => ne_of_gt hlt h'.1).elim
  · exact le_antisymm (h'.resolve_left fun hlt => ne_of_gt hlt heq).2 hle

end NoFarther

/-- There is one shortest decimal. -/
theorem IsShortest.unique (h : x.IsShortest d) (h' : x.IsShortest d') : d = d' := by
  have hlength : d'.length = d.length :=
    le_antisymm (h'.fewest d h.readsBack) (h.fewest d' h'.readsBack)
  exact Decimal.eq_of_value_eq h.stripped h'.stripped
    ((h.nearest d' h'.readsBack hlength).antisymm (h'.nearest d h.readsBack hlength.symm))

/-! ## Reading back -/

/-- A finite number counts its absolute value in units. -/
theorem modulus_eq_div (x : Binary64) : x.modulus = x.magnitude / unitsPerOne := by
  rw [eq_div_iff (Nat.cast_ne_zero.2 unitsPerOne_pos.ne')]
  exact modulus_mul_unitsPerOne x

/-- What decimals are read as grows with them. -/
theorem magnitude_ofDecimal_mono (negative : Bool) (h : d.value ≤ d'.value) :
    (ofDecimal negative d.digits d.exponent).magnitude ≤
      (ofDecimal negative d'.digits d'.exponent).magnitude := by
  rw [ofDecimal_eq_ofRatio, ofDecimal_eq_ofRatio]
  refine magnitude_ofRatio_mono (Nat.pow_pos (by decide)) (Nat.pow_pos (by decide)) ?_
  rw [Decimal.value_eq_div, Decimal.value_eq_div,
    div_le_div_iff₀ (by positivity) (by positivity)] at h
  exact_mod_cast h

/-- The exact decimal value. -/
theorem value_exactDecimal (x : Binary64) : x.exactDecimal.value = x.modulus := by
  obtain ⟨k, hk⟩ : ∃ k, 1074 = k := ⟨_, rfl⟩
  have hten : (10 : ℚ) = 5 * 2 := by norm_num
  rw [exactDecimal_eq x hk, modulus_eq_div, unitsPerOne_eq hk, Decimal.value, zpow_neg,
    zpow_natCast, hten, mul_pow]
  push_cast
  field_simp

/-- What lies between a finite number and a decimal that is read as it is read as it. -/
theorem ReadsBack.of_between (h : x.ReadsBack d) (hfinite : x.IsFinite)
    (hbetween : d.value ≤ d'.value ∧ d'.value ≤ x.modulus ∨
      x.modulus ≤ d'.value ∧ d'.value ≤ d.value) : x.ReadsBack d' := by
  have hexact := readsBack_exactDecimal hfinite
  have hvalue := value_exactDecimal x
  rw [ReadsBack] at h hexact
  refine eq_of_magnitude ?_ ?_
  · rw [ofDecimal_eq_ofRatio]
    exact negative_ofSignificand _ _ _
  · rcases hbetween with ⟨hlow, hhigh⟩ | ⟨hlow, hhigh⟩
    · have hle := magnitude_ofDecimal_mono x.negative hlow
      have hge := magnitude_ofDecimal_mono x.negative (hhigh.trans_eq hvalue.symm)
      rw [h] at hle
      rw [hexact] at hge
      exact le_antisymm hge hle
    · have hle := magnitude_ofDecimal_mono x.negative hhigh
      have hge := magnitude_ofDecimal_mono x.negative (hvalue.trans_le hlow)
      rw [h] at hle
      rw [hexact] at hge
      exact le_antisymm hle hge

/-! ## Neighbours on a grid -/

/-- The absolute value of a number in multiples of a power of ten, as a quotient. -/
theorem modulus_div_grid (x : Binary64) (exponent : Int) :
    ((x.magnitude * 10 ^ (-exponent).toNat : ℕ) : ℚ) /
      ((unitsPerOne * 10 ^ exponent.toNat : ℕ) : ℚ) = x.modulus / 10 ^ exponent := by
  have hpower : ((10 ^ exponent.toNat : ℕ) : ℚ) / ((10 ^ (-exponent).toNat : ℕ) : ℚ) =
      10 ^ exponent := by
    have hvalue := Decimal.value_eq_div ⟨1, exponent⟩
    rw [Decimal.value, Nat.cast_one, one_mul, Nat.one_mul] at hvalue
    exact hvalue.symm
  have hunits : (unitsPerOne : ℚ) ≠ 0 := Nat.cast_ne_zero.2 unitsPerOne_pos.ne'
  rw [modulus_eq_div, ← hpower]
  push_cast
  field_simp

/-- The greatest multiple of a power of ten that is not above a number. -/
def floorOn (x : Binary64) (exponent : Int) : Nat :=
  x.magnitude * 10 ^ (-exponent).toNat / (unitsPerOne * 10 ^ exponent.toNat)

/-- The neighbour below a number is not above it. -/
theorem value_floorOn_le (x : Binary64) (exponent : Int) :
    (⟨x.floorOn exponent, exponent⟩ : Decimal).value ≤ x.modulus := by
  have hle := (Nat.cast_div_le (α := ℚ)).trans_eq (modulus_div_grid x exponent)
  rwa [le_div_iff₀ (by positivity)] at hle

/-- The neighbour above a number is above it. -/
theorem lt_value_floorOn_succ (x : Binary64) (exponent : Int) :
    x.modulus < (⟨x.floorOn exponent + 1, exponent⟩ : Decimal).value := by
  have hden : 0 < unitsPerOne * 10 ^ exponent.toNat :=
    Nat.mul_pos unitsPerOne_pos (Nat.pow_pos (by decide))
  have hlt : x.magnitude * 10 ^ (-exponent).toNat <
      (x.floorOn exponent + 1) * (unitsPerOne * 10 ^ exponent.toNat) := by
    rw [Nat.mul_comm (_ + 1)]
    exact Nat.lt_mul_div_succ _ hden
  have hquotient : x.modulus / 10 ^ exponent < ((x.floorOn exponent + 1 : ℕ) : ℚ) := by
    rw [← modulus_div_grid, div_lt_iff₀ (Nat.cast_pos.2 hden)]
    exact_mod_cast hlt
  rwa [div_lt_iff₀ (by positivity)] at hquotient

/-- Of the neighbours of a number on a grid, the nearer one is told by the remainder. -/
theorem neighbours_remainder (x : Binary64) (exponent : Int) {num den : Nat}
    (hnum : num = x.magnitude * 10 ^ (-exponent).toNat)
    (hden : den = unitsPerOne * 10 ^ exponent.toNat) :
    (2 * (num % den) < den → x.NoFarther ⟨num / den, exponent⟩ ⟨num / den + 1, exponent⟩) ∧
      (den ≤ 2 * (num % den) → x.NoFarther ⟨num / den + 1, exponent⟩ ⟨num / den, exponent⟩) := by
  have hpos : 0 < den := hden ▸ Nat.mul_pos unitsPerOne_pos (Nat.pow_pos (by decide))
  have hgrid : (0 : ℚ) < 10 ^ exponent := by positivity
  have hmodulus : x.modulus =
      ((num / den : ℕ) + (num % den : ℕ) / (den : ℚ)) * 10 ^ exponent := by
    rw [← cast_div_eq num hpos, ← div_eq_iff hgrid.ne', ← modulus_div_grid, hnum, hden]
  have hdenCast : (0 : ℚ) < den := Nat.cast_pos.2 hpos
  have hfraction : ((num % den : ℕ) : ℚ) / den < 1 :=
    (div_lt_one hdenCast).2 (Nat.cast_lt.2 (Nat.mod_lt num hpos))
  have hnonneg : (0 : ℚ) ≤ ((num % den : ℕ) : ℚ) / den := by positivity
  have hbelow : |(⟨num / den, exponent⟩ : Decimal).value - x.modulus| =
      ((num % den : ℕ) : ℚ) / den * 10 ^ exponent := by
    rw [Decimal.value, hmodulus, ← sub_mul, abs_mul, abs_of_pos hgrid, abs_of_nonpos (by simpa)]
    ring
  have habove : |(⟨num / den + 1, exponent⟩ : Decimal).value - x.modulus| =
      (1 - ((num % den : ℕ) : ℚ) / den) * 10 ^ exponent := by
    rw [Decimal.value, hmodulus, ← sub_mul, abs_mul, abs_of_pos hgrid, Nat.cast_succ,
      abs_of_nonneg (by linarith)]
    ring
  unfold NoFarther
  rw [hbelow, habove]
  constructor
  · intro h
    have hhalf : ((num % den : ℕ) : ℚ) / den < 1 / 2 := by
      rw [div_lt_iff₀ hdenCast]
      have hcast : ((2 * (num % den) : ℕ) : ℚ) < den := Nat.cast_lt.2 h
      push_cast at hcast
      linarith
    exact .inl (mul_lt_mul_of_pos_right (by linarith) hgrid)
  · intro h
    have hhalf : 1 / 2 ≤ ((num % den : ℕ) : ℚ) / den := by
      rw [le_div_iff₀ hdenCast]
      have hcast : (den : ℚ) ≤ (2 * (num % den) : ℕ) := Nat.cast_le.2 h
      push_cast at hcast
      linarith
    rcases hhalf.lt_or_eq with hlt | heq
    · exact .inl (mul_lt_mul_of_pos_right (by linarith) hgrid)
    · exact .inr ⟨by rw [← heq]; norm_num, Decimal.value_le_value exponent (Nat.le_succ _)⟩

/-- The two neighbours of a number on a grid, the nearer one first, and the greater one first if
they are equally near. -/
theorem exists_neighbours (x : Binary64) (exponent : Int) : ∃ near far : Decimal,
    x.neighbour? .up exponent =
      [near, far].find? (fun d => decide (d.digits ≠ 0 ∧ x.ReadsBack d)) ∧
    x.NoFarther near far ∧
    [⟨x.floorOn exponent, exponent⟩, ⟨x.floorOn exponent + 1, exponent⟩].Perm [near, far] := by
  obtain ⟨num, hnum⟩ : ∃ num, num = x.magnitude * 10 ^ (-exponent).toNat := ⟨_, rfl⟩
  obtain ⟨den, hden⟩ : ∃ den, den = unitsPerOne * 10 ^ exponent.toNat := ⟨_, rfl⟩
  have hremainder := neighbours_remainder x exponent hnum hden
  have hpow (n : Nat) : Nat.pow 10 n = 10 ^ n := rfl
  unfold neighbour?
  rw [hpow, hpow, floorOn, ← hnum, ← hden]
  dsimp only
  rcases Nat.lt_trichotomy (2 * (num % den)) den with hlt | heq | hgt
  · rw [Nat.compare_eq_lt.2 hlt]
    exact ⟨_, _, rfl, hremainder.1 hlt, .refl _⟩
  · rw [Nat.compare_eq_eq.2 heq]
    exact ⟨_, _, rfl, hremainder.2 heq.ge, .swap _ _ _⟩
  · rw [Nat.compare_eq_gt.2 hgt]
    exact ⟨_, _, rfl, hremainder.2 hgt.le, .swap _ _ _⟩

/-- Of two one is found if one of them is sought, and the second only if the first is not. -/
theorem exists_find?_pair {α : Type} {p : α → Bool} {near far c : α} (hc : c ∈ [near, far])
    (h : p c = true) : ∃ d, [near, far].find? p = some d ∧ (d = c ∨ d = near ∧ c = far) := by
  rw [List.find?_cons]
  cases hnear : p near with
  | true => exact ⟨near, rfl, (List.mem_pair.1 hc).imp Eq.symm fun hfar => ⟨rfl, hfar⟩⟩
  | false =>
    obtain rfl : c = far := (List.mem_pair.1 hc).resolve_left fun heq => by
      rw [heq, hnear] at h
      cases h
    rw [List.find?_cons, h]
    exact ⟨c, rfl, .inl rfl⟩

/-- If a decimal of the grid is read as the number, one of the neighbours is chosen, and it is no
farther than that decimal. -/
theorem exists_neighbour? (hfinite : x.IsFinite) {digits : Nat} {exponent : Int}
    (hdigits : digits ≠ 0) (h : x.ReadsBack ⟨digits, exponent⟩) :
    ∃ d, x.neighbour? .up exponent = some d ∧ x.NoFarther d ⟨digits, exponent⟩ := by
  obtain ⟨near, far, hfind, hnear, hneighbours⟩ := exists_neighbours x exponent
  have hlow := value_floorOn_le x exponent
  have hhigh := (lt_value_floorOn_succ x exponent).le
  -- the neighbour on the side of the decimal is read as the number and no farther
  obtain ⟨c, hc, hne, hreads, hcloser⟩ : ∃ c ∈ [near, far], c.digits ≠ 0 ∧ x.ReadsBack c ∧
      x.NoFarther c ⟨digits, exponent⟩ := by
    rcases Nat.lt_or_ge (x.floorOn exponent) digits with hlt | hge
    · have hvalue := Decimal.value_le_value exponent hlt
      exact ⟨⟨x.floorOn exponent + 1, exponent⟩, hneighbours.mem_iff.1 (by simp),
        Nat.succ_ne_zero _, h.of_between hfinite (.inr ⟨hhigh, hvalue⟩), .of_above hhigh hvalue⟩
    · have hvalue := Decimal.value_le_value exponent hge
      exact ⟨⟨x.floorOn exponent, exponent⟩, hneighbours.mem_iff.1 (by simp),
        (Nat.lt_of_lt_of_le (Nat.pos_of_ne_zero hdigits) hge).ne',
        h.of_between hfinite (.inl ⟨hvalue, hlow⟩), .of_below hvalue hlow⟩
  obtain ⟨d, hd, hchosen⟩ := exists_find?_pair
    (p := fun d : Decimal => decide (d.digits ≠ 0 ∧ x.ReadsBack d)) hc
    (decide_eq_true ⟨hne, hreads⟩)
  refine ⟨d, hfind.trans hd, ?_⟩
  rcases hchosen with rfl | ⟨rfl, rfl⟩
  · exact hcloser
  · exact hnear.trans hcloser

/-! ## Grids -/

/-- A number is below the power of ten of its number of digits. -/
theorem lt_pow_length_toDigits (n : Nat) : n < 10 ^ (Nat.toDigits 10 n).length :=
  (Nat.length_toDigits_le_iff (by decide) Nat.length_toDigits_pos).1 (Nat.le_refl _)

/-- A number other than zero is not below the power of ten of its number of digits less one. -/
theorem pow_length_toDigits_le {n : Nat} (h : n ≠ 0) :
    10 ^ ((Nat.toDigits 10 n).length - 1) ≤ n := by
  by_contra hlt
  rw [Nat.not_le] at hlt
  have hlength : 0 < (Nat.toDigits 10 n).length := Nat.length_toDigits_pos
  rcases Nat.eq_zero_or_pos ((Nat.toDigits 10 n).length - 1) with hone | hmore
  · rw [hone, Nat.pow_zero] at hlt
    omega
  · have hle := (Nat.length_toDigits_le_iff (by decide) hmore).2 hlt
    omega

-- The exponent is a variable in the next two lemmas: a power of ten by its value would be computed.

/-- The scale of a number is told by its digits on a fine grid. -/
theorem decimalScale_eq (x : Binary64) {p : Nat} (hp : 400 = p) :
    x.decimalScale = (Nat.toDigits 10 (x.floorOn (-p))).length - p := by
  have hscale : (-(-(p : ℤ))).toNat = p := by omega
  have hone : (-(p : ℤ)).toNat = 0 := by omega
  have hcast : (400 : ℤ) = p := by omega
  rw [floorOn, hscale, hone, Nat.pow_zero, Nat.mul_one, decimalScale, hcast, hp]
  rfl

/-- A number other than zero is not below the first point of a fine grid. -/
theorem floorOn_pos (hzero : x.magnitude ≠ 0) {p : Nat} (hp : 400 = p) : 0 < x.floorOn (-p) := by
  obtain ⟨k, hk⟩ : ∃ k, 1074 = k := ⟨_, rfl⟩
  have hscale : (-(-(p : ℤ))).toNat = p := by omega
  have hone : (-(p : ℤ)).toNat = 0 := by omega
  have hunits : unitsPerOne ≤ 10 ^ p := unitsPerOne_eq hk ▸ two_pow_le_ten_pow (by omega)
  rw [floorOn, hscale, hone, Nat.pow_zero, Nat.mul_one]
  exact Nat.div_pos (hunits.trans (Nat.le_mul_of_pos_left _ (Nat.pos_of_ne_zero hzero)))
    unitsPerOne_pos

/-- The power of ten above a number and the one below it. -/
theorem decimalScale_spec (hzero : x.magnitude ≠ 0) :
    (10 : ℚ) ^ (x.decimalScale - 1) ≤ x.modulus ∧ x.modulus < 10 ^ x.decimalScale := by
  obtain ⟨p, hp⟩ : ∃ p, 400 = p := ⟨_, rfl⟩
  obtain ⟨q, hq⟩ : ∃ q, q = x.floorOn (-p) := ⟨_, rfl⟩
  have hpos : 0 < q := hq ▸ floorOn_pos hzero hp
  have hlength : 0 < (Nat.toDigits 10 q).length := Nat.length_toDigits_pos
  have hgrid : (0 : ℚ) < 10 ^ (-p : ℤ) := by positivity
  rw [decimalScale_eq x hp, ← hq, sub_right_comm, sub_eq_add_neg _ (p : ℤ),
    sub_eq_add_neg _ (p : ℤ), zpow_add₀ (by norm_num), zpow_add₀ (by norm_num),
    ← Nat.cast_pred hlength, zpow_natCast, zpow_natCast]
  constructor
  · have hlow : (q : ℚ) * 10 ^ (-p : ℤ) ≤ x.modulus := hq ▸ value_floorOn_le x (-p)
    have hle : (10 : ℚ) ^ ((Nat.toDigits 10 q).length - 1) ≤ q := by
      exact_mod_cast pow_length_toDigits_le hpos.ne'
    exact (mul_le_mul_of_nonneg_right hle hgrid.le).trans hlow
  · have hhigh : x.modulus < ((q + 1 : ℕ) : ℚ) * 10 ^ (-p : ℤ) := hq ▸ lt_value_floorOn_succ x (-p)
    have hle : ((q + 1 : ℕ) : ℚ) ≤ 10 ^ (Nat.toDigits 10 q).length := by
      exact_mod_cast lt_pow_length_toDigits q
    exact hhigh.trans_le (mul_le_mul_of_nonneg_right hle hgrid.le)

/-- A decimal that is read as a number other than zero is not zero. -/
theorem ReadsBack.digits_ne_zero (h : x.ReadsBack d) (hzero : x.magnitude ≠ 0) : d.digits ≠ 0 := by
  intro hdigits
  rw [ReadsBack, hdigits, ofDecimal_zero] at h
  exact hzero (h ▸ rfl)

/-- A decimal that is read as a number stands on the grid of its number of digits, or below the
power of ten below the number, which is read as the number too. -/
theorem exists_grid (hfinite : x.IsFinite) (hzero : x.magnitude ≠ 0) (h : x.ReadsBack d) :
    ∃ n digits, n < d.length ∧ digits ≠ 0 ∧ x.ReadsBack ⟨digits, x.decimalScale - (n + 1)⟩ ∧
      x.NoFarther ⟨digits, x.decimalScale - (n + 1)⟩ d := by
  have hlength : 0 < d.length := Nat.length_toDigits_pos
  by_cases hgrid : x.decimalScale - d.length ≤ d.exponent
  · obtain ⟨k, hk⟩ := Int.le.dest hgrid
    have hexponent : x.decimalScale - ((d.length - 1 : ℕ) + 1) = x.decimalScale - d.length := by
      omega
    have hvalue : d.value =
        (⟨d.digits * 10 ^ k, x.decimalScale - ((d.length - 1 : ℕ) + 1)⟩ : Decimal).value := by
      rw [Decimal.value_regrid, hexponent, hk]
    exact ⟨d.length - 1, d.digits * 10 ^ k, by omega,
      Nat.mul_ne_zero (h.digits_ne_zero hzero) (Nat.pow_pos (by decide)).ne',
      (ofDecimal_congr _ hvalue.symm).trans h, .of_value_eq hvalue.symm⟩
  · have hpower : (⟨1, x.decimalScale - ((0 : ℕ) + 1)⟩ : Decimal).value =
        (10 : ℚ) ^ (x.decimalScale - 1) := by
      simp [Decimal.value]
    have hreached := hpower.trans_le (decimalScale_spec hzero).1
    have hbelow : d.value ≤ (⟨1, x.decimalScale - ((0 : ℕ) + 1)⟩ : Decimal).value := by
      have hdigits : (d.digits : ℚ) ≤ (10 : ℚ) ^ (d.length : ℤ) := by
        rw [zpow_natCast]
        exact_mod_cast (lt_pow_length_toDigits d.digits).le
      rw [hpower]
      calc d.value ≤ (10 : ℚ) ^ (d.length : ℤ) * 10 ^ d.exponent :=
            mul_le_mul_of_nonneg_right hdigits (by positivity)
        _ = (10 : ℚ) ^ (d.length + d.exponent) := (zpow_add₀ (by norm_num) _ _).symm
        _ ≤ (10 : ℚ) ^ (x.decimalScale - 1) := zpow_le_zpow_right₀ (by norm_num) (by omega)
    exact ⟨0, 1, hlength, one_ne_zero, h.of_between hfinite (.inl ⟨hbelow, hreached⟩),
      .of_below hbelow hreached⟩

/-- A decimal that is much nearer to a finite number than other numbers are is read as it. -/
theorem readsBack_of_near (hfinite : x.IsFinite)
    (h : 2 ^ 54 * |x.modulus - d.value| < x.modulus) : x.ReadsBack d := by
  have hunits : (0 : ℚ) < unitsPerOne := Nat.cast_pos.2 unitsPerOne_pos
  rw [ReadsBack, ofDecimal_eq_ofRatio]
  refine ofRatio_eq_of_near hfinite (Nat.pow_pos (by decide)) ?_
  rw [Nat.cast_mul _ unitsPerOne, mul_div_right_comm, ← Decimal.value_eq_div,
    ← modulus_mul_unitsPerOne, ← sub_mul, abs_mul, abs_of_pos hunits, ← mul_assoc]
  exact mul_lt_mul_of_pos_right h hunits

/-- Of the decimals of seventeen digits one is read as the number. -/
theorem exists_seventeen (hfinite : x.IsFinite) (hzero : x.magnitude ≠ 0) :
    ∃ digits, digits ≠ 0 ∧ x.ReadsBack ⟨digits, x.decimalScale - 17⟩ := by
  obtain ⟨e, he⟩ : ∃ e, e = x.decimalScale - 17 := ⟨_, rfl⟩
  have hgrid : (0 : ℚ) < 10 ^ e := by positivity
  have hlow : 10 ^ 16 * (10 : ℚ) ^ e ≤ x.modulus := by
    have hpower : (10 : ℚ) ^ (x.decimalScale - 1) = 10 ^ 16 * 10 ^ e := by
      have hexponent : x.decimalScale - 1 = (16 : ℕ) + e := by omega
      rw [hexponent, zpow_add₀ (by norm_num), zpow_natCast]
    exact hpower ▸ (decimalScale_spec hzero).1
  obtain ⟨num, hnum⟩ : ∃ num, num = x.magnitude * 10 ^ (-e).toNat := ⟨_, rfl⟩
  obtain ⟨den, hden⟩ : ∃ den, den = unitsPerOne * 10 ^ e.toNat := ⟨_, rfl⟩
  have hdenPos : 0 < den := hden ▸ Nat.mul_pos unitsPerOne_pos (Nat.pow_pos (by decide))
  have hmodulus : x.modulus = num / den * 10 ^ e := by
    rw [← div_eq_iff hgrid.ne', ← modulus_div_grid, hnum, hden]
  have hhalf := abs_roundHalfEven_sub_le num hdenPos
  have hquotient : (10 : ℚ) ^ 16 ≤ num / den := by
    rw [hmodulus] at hlow
    exact le_of_mul_le_mul_right hlow hgrid
  refine ⟨roundHalfEven num den, fun hrounded => ?_, he ▸ readsBack_of_near hfinite ?_⟩
  · rw [hrounded, Nat.cast_zero, zero_sub, abs_neg, abs_of_nonneg (by positivity)] at hhalf
    linarith
  · have hdistance :
        |x.modulus - (⟨roundHalfEven num den, e⟩ : Decimal).value| ≤ 1 / 2 * 10 ^ e := by
      rw [hmodulus, Decimal.value, ← sub_mul, abs_mul, abs_of_pos hgrid, abs_sub_comm]
      exact mul_le_mul_of_nonneg_right hhalf hgrid.le
    calc 2 ^ 54 * |x.modulus - (⟨roundHalfEven num den, e⟩ : Decimal).value|
        ≤ 2 ^ 54 * (1 / 2 * 10 ^ e) := mul_le_mul_of_nonneg_left hdistance (by norm_num)
      _ < 10 ^ 16 * 10 ^ e := by
        rw [← mul_assoc]
        exact mul_lt_mul_of_pos_right (by norm_num) hgrid
      _ ≤ x.modulus := hlow

/-! ## The decimal that is written -/

/-- Without the zeros behind them the digits are no more. -/
theorem digits_stripZeros_le (fuel : Nat) (d : Decimal) :
    (d.stripZeros fuel).digits ≤ d.digits := by
  induction fuel generalizing d with
  | zero => exact Nat.le_refl _
  | succ fuel ih =>
    rw [Decimal.stripZeros]
    split
    · exact (ih _).trans (Nat.div_le_self _ _)
    · exact Nat.le_refl _

/-- All zeros behind the digits are taken away if there is fuel for as many as there are digits. -/
theorem digits_stripZeros_mod {fuel : Nat} {d : Decimal} (hzero : d.digits ≠ 0)
    (h : d.digits < 10 ^ fuel) : (d.stripZeros fuel).digits % 10 ≠ 0 := by
  induction fuel generalizing d with
  | zero =>
    rw [Nat.pow_zero] at h
    omega
  | succ fuel ih =>
    rw [Decimal.stripZeros]
    split
    · refine ih (by dsimp only; omega) ?_
      rw [Nat.pow_succ] at h
      dsimp only
      omega
    · omega

/-- The first of a range with an image. -/
theorem exists_first_of_findSome? {β : Type} {f : Nat → Option β} {n : Nat} {b : β}
    (h : (List.range n).findSome? f = some b) : ∃ i < n, f i = some b ∧ ∀ j < i, f j = none := by
  obtain ⟨before, i, after, hrange, hi, hbefore⟩ := List.findSome?_eq_some_iff.1 h
  have hsorted := List.pairwise_lt_range (n := n)
  have hmem : i ∈ List.range n := hrange ▸ List.mem_append_right _ List.mem_cons_self
  refine ⟨i, List.mem_range.1 hmem, hi, fun j hj => ?_⟩
  have hjmem : j ∈ List.range n := List.mem_range.2 (hj.trans (List.mem_range.1 hmem))
  rw [hrange] at hsorted hjmem
  rcases List.mem_append.1 hjmem with hj' | hj'
  · exact hbefore j hj'
  · rcases List.mem_cons.1 hj' with rfl | hj'
    · exact absurd hj (lt_irrefl j)
    · exact absurd ((List.pairwise_cons.1 (List.pairwise_append.1 hsorted).2.1).1 j hj') hj.asymm

/-- The neighbour on the grid of a number of digits. -/
def onGrid? (x : Binary64) : Nat → Option Decimal :=
  x.neighbour? .up ∘ fun n => x.decimalScale - (n + 1)

/-- The neighbour on the grid of a number of digits, by its exponent. -/
theorem onGrid?_eq (x : Binary64) (n : Nat) :
    x.onGrid? n = x.neighbour? .up (x.decimalScale - (n + 1)) := by
  rw [onGrid?, Function.comp_apply]

/-- The decimal that is written is the neighbour on the first grid that has one which is read as the
number, without the zeros behind its digits. -/
theorem exists_first_grid (hfinite : x.IsFinite) (hzero : x.magnitude ≠ 0) :
    ∃ n d fuel, x.onGrid? n = some d ∧ (∀ j < n, x.onGrid? j = none) ∧ n < 17 ∧ 17 < fuel ∧
      x.shortest .up = d.stripZeros fuel := by
  have hfind : ((List.range 17).map fun (n : Nat) => x.decimalScale - (n + 1)).findSome?
      (x.neighbour? .up) = (List.range 17).findSome? x.onGrid? := by
    rw [List.findSome?_map, onGrid?]
  unfold shortest
  dsimp only
  rw [hfind]
  cases hchosen : (List.range 17).findSome? x.onGrid? with
  | none =>
    obtain ⟨digits, hdigits, hreads⟩ := exists_seventeen hfinite hzero
    obtain ⟨d, hd, -⟩ := exists_neighbour? hfinite hdigits hreads
    have hnone := List.findSome?_eq_none_iff.1 hchosen 16 (by decide)
    have hexponent : x.decimalScale - ((16 : ℕ) + 1) = x.decimalScale - 17 := by omega
    rw [onGrid?_eq, hexponent, hd] at hnone
    cases hnone
  | some d =>
    obtain ⟨n, hn, hd, hfirst⟩ := exists_first_of_findSome? hchosen
    exact ⟨n, d, 400, hd, hfirst, hn, by decide, rfl⟩

/-- The digits of a neighbour on a grid. -/
theorem digits_le_of_onGrid? (hzero : x.magnitude ≠ 0) {n : Nat} (h : x.onGrid? n = some d) :
    d.digits ≤ 10 ^ (n + 1) := by
  have hfloor : x.floorOn (x.decimalScale - (n + 1)) < 10 ^ (n + 1) := by
    have hlow :=
      (value_floorOn_le x (x.decimalScale - (n + 1))).trans_lt (decimalScale_spec hzero).2
    have hscale : x.decimalScale = (n + 1 : ℕ) + (x.decimalScale - (n + 1)) := by omega
    rw [hscale, zpow_add₀ (by norm_num), zpow_natCast, ← hscale] at hlow
    have hcancel := lt_of_mul_lt_mul_right hlow (by positivity)
    exact_mod_cast hcancel
  obtain ⟨near, far, hfind, -, hneighbours⟩ := exists_neighbours x (x.decimalScale - (n + 1))
  rw [onGrid?_eq, hfind] at h
  rcases List.mem_pair.1 (hneighbours.mem_iff.2 (List.mem_of_find?_eq_some h)) with rfl | rfl
  · exact hfloor.le
  · exact hfloor

/-- The decimal that is written is the shortest. -/
theorem isShortest_shortest (hfinite : x.IsFinite) (hzero : x.magnitude ≠ 0) :
    x.IsShortest (x.shortest .up) := by
  obtain ⟨n, d, fuel, hd, hfirst, hn, hfuel, heq⟩ := exists_first_grid hfinite hzero
  obtain ⟨hne, hreads⟩ := readsBack_neighbour? (onGrid?_eq x n ▸ hd)
  have hdigits := digits_le_of_onGrid? hzero hd
  have hstripped : (d.stripZeros fuel).digits % 10 ≠ 0 :=
    digits_stripZeros_mod hne (hdigits.trans_lt (Nat.pow_lt_pow_right (by decide) (by omega)))
  have hlength : (d.stripZeros fuel).length ≤ n + 1 := by
    refine (Nat.length_toDigits_le_iff (by decide) (Nat.succ_pos n)).2 ?_
    refine lt_of_le_of_ne ((digits_stripZeros_le fuel d).trans hdigits) fun hpower => hstripped ?_
    rw [hpower, Nat.pow_succ, Nat.mul_mod_left]
  -- a decimal that is read as the number is beaten by one on its grid, which is not before this one
  have hgrid (d' : Decimal) (h' : x.ReadsBack d') : n + 1 ≤ d'.length ∧
      (d'.length = n + 1 → x.NoFarther d d') := by
    obtain ⟨j, digits, hj, hdigits', hreads', hnear⟩ := exists_grid hfinite hzero h'
    obtain ⟨c, hc, hcnear⟩ := exists_neighbour? hfinite hdigits' hreads'
    rw [← onGrid?_eq] at hc
    have hnj : n ≤ j := by
      by_contra hlt
      exact absurd (hc.symm.trans (hfirst j (Nat.not_le.1 hlt))) (Option.some_ne_none c)
    refine ⟨by omega, fun hsame => ?_⟩
    obtain rfl : j = n := by omega
    obtain rfl : d = c := Option.some.inj (hd.symm.trans hc)
    exact hcnear.trans hnear
  rw [heq]
  refine ⟨hreads.stripZeros fuel, hstripped, fun d' h' => hlength.trans (hgrid d' h').1,
    fun d' h' hsame => ?_⟩
  refine (NoFarther.of_value_eq (Decimal.value_stripZeros fuel d)).trans ((hgrid d' h').2 ?_)
  exact le_antisymm (hsame.le.trans hlength) (hgrid d' h').1

end Binary64

end RowQuery
