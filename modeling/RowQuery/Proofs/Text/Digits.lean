import Mathlib.Data.List.Basic
import Mathlib.Data.List.Induction
import Mathlib.Tactic.IntervalCases
import RowQuery.Text.Numeral

/-!
# Decimal digits

The digits of a number are its numeral: they are digits, the first of them is a zero only when it
stands alone, and their value (`Text.digitsValue`) is the number. No other digits are
(`Text.eq_toDigits`).
-/

namespace RowQuery.Text

variable {digits digits' : List Char}

/-- The value of digits is that of the library. -/
theorem digitsValue_eq_ofDigitChars (digits : List Char) :
    digitsValue digits = Nat.ofDigitChars 10 digits 0 := rfl

/-- The digits of a number have it as their value. -/
@[simp]
theorem digitsValue_toDigits (n : Nat) : digitsValue (Nat.toDigits 10 n) = n :=
  Nat.ofDigitChars_ten_toDigits

/-- The digits of a number are digits. -/
theorem isDigit_of_mem_toDigits {n : Nat} : ∀ c ∈ Nat.toDigits 10 n, c.isDigit = true :=
  fun _ => Nat.isDigit_of_mem_toDigits (by decide) (by decide)

/-- The digits of a number begin with a zero only when the number is zero. -/
theorem eq_zero_of_head?_toDigits {n : Nat} (h : (Nat.toDigits 10 n).head? = some '0') : n = 0 := by
  induction n using Nat.strongRecOn with
  | ind n ih =>
    rcases Nat.lt_or_ge n 10 with hlt | hge
    · rw [Nat.toDigits_of_lt_base hlt, List.head?_cons, Option.some.injEq] at h
      revert h
      interval_cases n <;> decide
    · rw [Nat.toDigits_of_base_le (by decide) hge,
        List.head?_append_of_ne_nil _ Nat.toDigits_ne_nil] at h
      have hzero := ih (n / 10) (Nat.div_lt_self (by omega) (by decide)) h
      omega

/-- Zeros are digits. -/
theorem isDigit_of_mem_zeros {zeros : Nat} : ∀ c ∈ List.replicate zeros '0', c.isDigit = true :=
  fun _ hc => (List.eq_of_mem_replicate hc) ▸ rfl

/-- Zeros behind digits multiply their value. -/
theorem digitsValue_append_zeros (digits : List Char) (zeros : Nat) :
    digitsValue (digits ++ List.replicate zeros '0') = digitsValue digits * 10 ^ zeros := by
  rw [digitsValue_eq_ofDigitChars, Nat.ofDigitChars_append, Nat.ofDigitChars_replicate_zero,
    Nat.mul_comm, digitsValue_eq_ofDigitChars]

/-- Zeros before digits do not count. -/
theorem digitsValue_zeros_append (zeros : Nat) (digits : List Char) :
    digitsValue (List.replicate zeros '0' ++ digits) = digitsValue digits := by
  rw [digitsValue_eq_ofDigitChars, Nat.ofDigitChars_append, Nat.ofDigitChars_replicate_zero,
    Nat.mul_zero, digitsValue_eq_ofDigitChars]

/-! ## The value of digits -/

/-- The value of digits before and behind a place. -/
theorem digitsValue_append (digits digits' : List Char) : digitsValue (digits ++ digits') =
    10 ^ digits'.length * digitsValue digits + digitsValue digits' := by
  rw [digitsValue_eq_ofDigitChars, Nat.ofDigitChars_append, Nat.ofDigitChars_eq_ofDigitChars_zero]
  rfl

/-- A digit behind others. -/
theorem digitsValue_concat (digits : List Char) (c : Char) :
    digitsValue (digits ++ [c]) = 10 * digitsValue digits + digitsValue [c] :=
  digitsValue_append digits [c]

/-- A digit is below ten, and the digit of its value. -/
theorem digit_spec {c : Char} (h : c.isDigit = true) :
    digitsValue [c] < 10 ∧ Nat.digitChar (digitsValue [c]) = c := by
  have hvalue : digitsValue [c] = c.toNat - 48 := Nat.zero_add _
  obtain ⟨hlow, hhigh⟩ : 48 ≤ c.toNat ∧ c.toNat ≤ 57 := Char.isDigit_iff_toNat.1 h
  have hlt : digitsValue [c] < 10 := by omega
  refine ⟨hlt, Char.toNat_inj.1 ?_⟩
  rw [Nat.toNat_digitChar_of_lt_ten hlt]
  omega

/-- So many digits are below the power of ten. -/
theorem digitsValue_lt (h : ∀ c ∈ digits, c.isDigit = true) :
    digitsValue digits < 10 ^ digits.length := by
  induction digits using List.reverseRecOn with
  | nil => exact Nat.one_pos
  | append_singleton digits c ih =>
    rw [List.forall_mem_append, List.forall_mem_singleton] at h
    have hlt := ih h.1
    have hdigit := (digit_spec h.2).1
    rw [digitsValue_concat, List.length_append, List.length_singleton, Nat.pow_succ]
    omega

/-- Digits have a multiple of ten as their value if and only if the last of them is a zero. -/
theorem digitsValue_mod_ten (hne : digits ≠ []) (h : ∀ c ∈ digits, c.isDigit = true) :
    digitsValue digits % 10 = 0 ↔ digits.getLast? = some '0' := by
  obtain ⟨init, c, rfl⟩ := (List.eq_nil_or_concat' digits).resolve_left hne
  have hc : c.isDigit = true := h c (by simp)
  obtain ⟨hlt, hchar⟩ := digit_spec hc
  rw [digitsValue_concat, Nat.mul_add_mod, Nat.mod_eq_of_lt hlt, List.getLast?_concat,
    Option.some.injEq]
  constructor
  · intro hzero
    rw [← hchar, hzero]
    rfl
  · rintro rfl
    rfl

/-- Digits that begin with a zero only when it stands alone are those of their value. -/
theorem eq_toDigits (hne : digits ≠ []) (h : ∀ c ∈ digits, c.isDigit = true)
    (halone : digits.head? = some '0' → digits = ['0']) :
    digits = Nat.toDigits 10 (digitsValue digits) := by
  induction digits using List.reverseRecOn with
  | nil => exact absurd rfl hne
  | append_singleton digits c ih =>
    rw [List.forall_mem_append, List.forall_mem_singleton] at h
    obtain ⟨hlt, hchar⟩ := digit_spec h.2
    rw [digitsValue_concat]
    rcases eq_or_ne digits [] with rfl | hne
    · have hvalue : 10 * digitsValue [] + digitsValue [c] = digitsValue [c] := Nat.zero_add _
      rw [hvalue, Nat.toDigits_of_lt_base hlt, hchar, List.nil_append]
    · have hhead : digits.head? ≠ some '0' := fun hhead => by
        rw [List.head?_append_of_ne_nil _ hne] at halone
        have hlength := congrArg List.length (halone hhead)
        rw [List.length_append, List.length_singleton, List.length_singleton] at hlength
        exact hne (List.length_eq_zero_iff.1 (by omega))
      have hdigits := ih hne h.1 (absurd · hhead)
      have hpos : 0 < digitsValue digits := Nat.pos_of_ne_zero fun hzero => by
        rw [hdigits, hzero] at hhead
        exact hhead rfl
      rw [← Nat.toDigits_append_toDigits (by decide) hpos hlt, ← hdigits,
        Nat.toDigits_of_lt_base hlt, hchar]

/-- As many digits of the same value are the same. -/
theorem eq_of_digitsValue_eq (hlength : digits.length = digits'.length)
    (h : ∀ c ∈ digits, c.isDigit = true) (h' : ∀ c ∈ digits', c.isDigit = true)
    (hvalue : digitsValue digits = digitsValue digits') : digits = digits' := by
  -- behind a one, no zero at the start is in the way
  have hone {digits : List Char} (h : ∀ c ∈ digits, c.isDigit = true) :
      '1' :: digits = Nat.toDigits 10 (10 ^ digits.length + digitsValue digits) := by
    have hsplit := digitsValue_append ['1'] digits
    have hunit : digitsValue ['1'] = 1 := rfl
    rw [hunit, Nat.mul_one, List.singleton_append] at hsplit
    rw [← hsplit]
    refine eq_toDigits (List.cons_ne_nil _ _) (List.forall_mem_cons.2 ⟨rfl, h⟩) fun hhead => ?_
    rw [List.head?_cons] at hhead
    exact absurd hhead (by decide)
  have heq : '1' :: digits = '1' :: digits' := by rw [hone h, hone h', hlength, hvalue]
  exact (List.cons.inj heq).2

/-- Of digits of the same value as many at the end are the same, and those before them have the same
value. -/
theorem parts_of_digitsValue_eq {last last' : List Char} (hlength : last.length = last'.length)
    (h : ∀ c ∈ last, c.isDigit = true) (h' : ∀ c ∈ last', c.isDigit = true)
    (hvalue : digitsValue (digits ++ last) = digitsValue (digits' ++ last')) :
    digitsValue digits = digitsValue digits' ∧ last = last' := by
  have hlt := digitsValue_lt h
  have hlt' := digitsValue_lt h'
  rw [← hlength] at hlt'
  rw [digitsValue_append, digitsValue_append, ← hlength] at hvalue
  -- the last digits are the remainder by a power of ten, and those before them are the quotient
  have hpower : 0 < 10 ^ last.length := Nat.pow_pos (by decide)
  have hquotient := congrArg (· / 10 ^ last.length) hvalue
  have hremainder := congrArg (· % 10 ^ last.length) hvalue
  simp only [Nat.mul_add_div hpower, Nat.div_eq_of_lt hlt, Nat.div_eq_of_lt hlt',
    Nat.add_zero] at hquotient
  simp only [Nat.mul_add_mod, Nat.mod_eq_of_lt hlt, Nat.mod_eq_of_lt hlt'] at hremainder
  exact ⟨hquotient, eq_of_digitsValue_eq hlength h h' hremainder⟩

end RowQuery.Text
