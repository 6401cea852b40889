import Mathlib.Tactic.FieldSimp
import Mathlib.Tactic.Ring
import RowQuery.Binary64.Style
import RowQuery.Proofs.Binary64.Decimal
import RowQuery.Proofs.Text.Digits

/-!
# Decimals with a point among their digits

`Decimal.Positional` says which digits before a point and behind it write a decimal. Those that are
written do (`Decimal.exists_positional`), they are read as the number that the decimal is read as
(`Decimal.Positional.ofDecimal_eq`), and without a zero at the end of the places there is one way to
write a decimal (`Decimal.Positional.unique`).
-/

namespace RowQuery

open Text (digitsValue)

namespace Decimal

variable {d : Decimal} {whole places whole' places' : List Char}

/-- The digits before a point and those behind it write a decimal. -/
structure Positional (d : Decimal) (whole places : List Char) : Prop where
  /-- There is a digit before the point. -/
  whole_ne_nil : whole ≠ []
  /-- There are only digits. -/
  isDigit : ∀ c ∈ whole ++ places, c.isDigit = true
  /-- A zero at the start stands alone. -/
  zero_alone : whole.head? = some '0' → whole = ['0']
  /-- The digits have the value of the decimal. -/
  value : (digitsValue (whole ++ places) : ℚ) = d.value * 10 ^ places.length

namespace Positional

/-- There are not more places than another way to write the decimal has, without a zero at their
end. -/
theorem length_places_le (h : d.Positional whole places) (h' : d.Positional whole' places')
    (hlast' : places'.getLast? ≠ some '0') : places'.length ≤ places.length := by
  by_contra hlt
  obtain ⟨k, hk⟩ := Nat.exists_eq_add_of_lt (Nat.not_le.1 hlt)
  have hvalue : digitsValue (whole' ++ places') = digitsValue (whole ++ places) * 10 ^ (k + 1) := by
    have hcast : (digitsValue (whole' ++ places') : ℚ) =
        digitsValue (whole ++ places) * 10 ^ (k + 1) := by
      rw [h'.value, h.value, hk, Nat.add_assoc, pow_add, mul_assoc]
    exact_mod_cast hcast
  have hplaces : places' ≠ [] := List.ne_nil_of_length_pos (by omega)
  refine hlast' ?_
  rw [← List.getLast?_append_of_ne_nil whole' hplaces, ← Text.digitsValue_mod_ten
    (List.append_ne_nil_of_right_ne_nil _ hplaces) h'.isDigit, hvalue, Nat.pow_succ,
    ← Nat.mul_assoc, Nat.mul_mod_left]

/-- There is one way to write a decimal without a zero at the end of the places. -/
theorem unique (h : d.Positional whole places) (hlast : places.getLast? ≠ some '0')
    (h' : d.Positional whole' places') (hlast' : places'.getLast? ≠ some '0') :
    whole = whole' ∧ places = places' := by
  have hlength : places.length = places'.length :=
    le_antisymm (h'.length_places_le h hlast) (h.length_places_le h' hlast')
  have hvalue : digitsValue (whole ++ places) = digitsValue (whole' ++ places') := by
    have hcast : (digitsValue (whole ++ places) : ℚ) = digitsValue (whole' ++ places') := by
      rw [h.value, h'.value, hlength]
    exact_mod_cast hcast
  obtain ⟨hwhole, hplaces⟩ := List.forall_mem_append.1 h.isDigit
  obtain ⟨hwhole', hplaces'⟩ := List.forall_mem_append.1 h'.isDigit
  obtain ⟨hwholeValue, hplacesEq⟩ := Text.parts_of_digitsValue_eq hlength hplaces hplaces' hvalue
  refine ⟨?_, hplacesEq⟩
  rw [Text.eq_toDigits h.whole_ne_nil hwhole h.zero_alone,
    Text.eq_toDigits h'.whole_ne_nil hwhole' h'.zero_alone, hwholeValue]

/-- A zero can be added behind the digits as a place. -/
theorem point_zero (h : d.Positional whole []) : d.Positional whole ['0'] where
  whole_ne_nil := h.whole_ne_nil
  isDigit := by
    have hdigit := h.isDigit
    rw [List.append_nil] at hdigit
    exact List.forall_mem_append.2 ⟨hdigit, @Text.isDigit_of_mem_zeros 1⟩
  zero_alone := h.zero_alone
  value := by
    have hvalue := h.value
    rw [List.append_nil, List.length_nil, pow_zero, mul_one] at hvalue
    have hlast : (['0'] : List Char) = List.replicate 1 '0' := rfl
    rw [hlast, Text.digitsValue_append_zeros, Nat.cast_mul, hvalue, List.length_replicate]
    norm_num

/-- The digits are read as the number that the decimal is read as. -/
theorem ofDecimal_eq (h : d.Positional whole places) (negative : Bool) :
    Binary64.ofDecimal negative (digitsValue (whole ++ places)) (0 - places.length) =
      Binary64.ofDecimal negative d.digits d.exponent := by
  have hvalue : (⟨digitsValue (whole ++ places), 0 - places.length⟩ : Decimal).value = d.value := by
    rw [Decimal.value, h.value, zero_sub, zpow_neg, zpow_natCast]
    field_simp
  exact Binary64.ofDecimal_congr negative hvalue

end Positional

/-! ## The digits that are written -/

/-- Digits that do not begin with a zero, and the number that they write. -/
structure Significant (written : List Char) (digits : Nat) : Prop where
  ne_nil : written ≠ []
  isDigit : ∀ c ∈ written, c.isDigit = true
  head_ne_zero : written.head? ≠ some '0'
  /-- They write the number. -/
  value : digitsValue written = digits

/-- The digits of a number that is not zero. -/
theorem significant_digitChars {digits : Nat} (h : digits ≠ 0) :
    Significant (digitChars digits) digits where
  ne_nil := Nat.toDigits_ne_nil
  isDigit := Text.isDigit_of_mem_toDigits
  head_ne_zero := mt Text.eq_zero_of_head?_toDigits h
  value := Text.digitsValue_toDigits digits

/-- The value of a decimal that has places. -/
theorem value_mul_pow (digits places : Nat) :
    (⟨digits, -places⟩ : Decimal).value * 10 ^ places = digits := by
  unfold value
  dsimp only
  rw [zpow_neg, zpow_natCast]
  field_simp

section

variable {written : List Char} {digits : Nat}

/-- The digits of a number that is no multiple of ten do not end with a zero. -/
theorem Significant.getLast?_ne (h : Significant written digits) (hstripped : digits % 10 ≠ 0) :
    written.getLast? ≠ some '0' := by
  rw [Ne, ← Text.digitsValue_mod_ten h.ne_nil h.isDigit, h.value]
  exact hstripped

/-- A decimal without places is its digits and the zeros of the exponent. -/
theorem positional_zeros_behind (h : Significant written digits) (zeros : Nat) :
    (⟨digits, zeros⟩ : Decimal).Positional (written ++ List.replicate zeros '0') [] where
  whole_ne_nil := List.append_ne_nil_of_left_ne_nil h.ne_nil _
  isDigit := by
    rw [List.append_nil]
    exact List.forall_mem_append.2 ⟨h.isDigit, Text.isDigit_of_mem_zeros⟩
  zero_alone hhead := absurd (List.head?_append_of_ne_nil _ h.ne_nil ▸ hhead) h.head_ne_zero
  value := by
    rw [List.append_nil, Text.digitsValue_append_zeros, h.value, Decimal.value, zpow_natCast]
    simp

/-- A decimal with fewer places than digits has the point among them. -/
theorem positional_point_within (h : Significant written digits) {places : Nat}
    (hpos : 0 < places) (hlt : places < written.length) :
    (⟨digits, -places⟩ : Decimal).Positional (written.take (written.length - places))
      (written.drop (written.length - places)) := by
  have hlength : (written.drop (written.length - places)).length = places := by
    rw [List.length_drop]
    omega
  have hwhole : written.take (written.length - places) ≠ [] :=
    List.ne_nil_of_length_pos (by rw [List.length_take]; omega)
  have hjoined := List.take_append_drop (written.length - places) written
  refine ⟨hwhole, hjoined.symm ▸ h.isDigit, fun hhead => absurd ?_ h.head_ne_zero, ?_⟩
  · rw [← hjoined, List.head?_append_of_ne_nil _ hwhole]
    exact hhead
  · rw [hjoined, hlength, h.value, value_mul_pow]

/-- A decimal with at least as many places as digits has zeros between the point and the digits. -/
theorem positional_zeros_before (h : Significant written digits) {places : Nat}
    (hle : written.length ≤ places) : (⟨digits, -places⟩ : Decimal).Positional ['0']
      (List.replicate (places - written.length) '0' ++ written) := by
  have hlength : (List.replicate (places - written.length) '0' ++ written).length = places := by
    rw [List.length_append, List.length_replicate, Nat.sub_add_cancel hle]
  have hfirst : (['0'] : List Char) = List.replicate 1 '0' := rfl
  refine ⟨List.cons_ne_nil _ _, ?_, fun _ => rfl, ?_⟩
  · exact List.forall_mem_append.2 ⟨@Text.isDigit_of_mem_zeros 1,
      List.forall_mem_append.2 ⟨Text.isDigit_of_mem_zeros, h.isDigit⟩⟩
  · rw [hlength, hfirst, ← List.append_assoc, List.replicate_append_replicate,
      Text.digitsValue_zeros_append, h.value, value_mul_pow]

end

/-- The places of a number behind their point, which stands before a zero or not at all if there are
none. -/
def fraction (pointZero : Bool) (places : List Char) : List Char :=
  if places = [] then (if pointZero then ['.', '0'] else []) else '.' :: places

/-- Places stand behind their point. -/
theorem fraction_of_ne_nil (pointZero : Bool) (h : places ≠ []) :
    fraction pointZero places = '.' :: places := if_neg h

/-- A decimal is written positionally, without a zero at the end of the places if there is none
behind its digits. -/
theorem exists_positional (pointZero : Bool) (h : d.digits ≠ 0) : ∃ whole places,
    d.Positional whole places ∧ (d.digits % 10 ≠ 0 → places.getLast? ≠ some '0') ∧
      (d.plainText pointZero).toList = whole ++ fraction pointZero places := by
  obtain ⟨digits, exponent⟩ := d
  have hwritten : Significant (digitChars digits) digits := significant_digitChars h
  unfold plainText
  dsimp only
  split
  · next hexponent =>
    obtain ⟨zeros, rfl⟩ := Int.eq_ofNat_of_zero_le hexponent
    refine ⟨_, _, positional_zeros_behind hwritten zeros, fun _ => by simp, ?_⟩
    cases pointZero <;> simp [fraction]
  · next hexponent =>
    obtain ⟨places, hplaces⟩ : ∃ places : Nat, exponent = -places :=
      ⟨(-exponent).toNat, by omega⟩
    subst hplaces
    rw [neg_neg, Int.toNat_natCast]
    split
    · next hlt =>
      have hne : (digitChars digits).drop ((digitChars digits).length - places) ≠ [] :=
        List.ne_nil_of_length_pos (by rw [List.length_drop]; omega)
      refine ⟨_, _, positional_point_within hwritten (by omega) hlt, fun hstripped => ?_, ?_⟩
      · rw [List.getLast?_drop, if_neg (by omega)]
        exact hwritten.getLast?_ne hstripped
      · simp [fraction_of_ne_nil pointZero hne]
    · next hge =>
      have hne := List.append_ne_nil_of_right_ne_nil
        (List.replicate (places - (digitChars digits).length) '0') hwritten.ne_nil
      refine ⟨_, _, positional_zeros_before hwritten (Nat.not_lt.1 hge), fun hstripped => ?_, ?_⟩
      · rw [List.getLast?_append_of_ne_nil _ hwritten.ne_nil]
        exact hwritten.getLast?_ne hstripped
      · rw [fraction_of_ne_nil pointZero hne]
        simp

end Decimal

end RowQuery
