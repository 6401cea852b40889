import RowQuery.Json.Printer
import RowQuery.Proofs.Binary64.Positional
import RowQuery.Proofs.Json.Reader

/-!
# Numbers and strings are written as JSON

What is written for a number is a number of the grammar that denotes it
(`Json.Number.writtenAs_text`): the digits of an integer, and the shortest decimal of a
floating-point number, positionally or with an exponent. What is written for a string is the string
in quotes (`Json.quoted_quote`).
-/

namespace RowQuery

open Document (NumberToken)
open Json.Grammar (Digits Exponent Numeral)
open Text (digitsValue isDigit_of_mem_zeros)

/-! ## Numbers -/

namespace Json.Number

variable {negative : Bool} {whole : List Char} {places? : Option (List Char)} {x : Binary64}

/-- The text is a number of the grammar, and denotes the number. -/
def WrittenAs (n : Json.Number) (text : List Char) : Prop :=
  ∃ numeral : Numeral, numeral.text = text ∧ numeral.token = .value n

/-- The digits of a number are digits of the grammar. -/
theorem digits_toDigits (n : Nat) : Digits (Nat.toDigits 10 n) :=
  ⟨Nat.toDigits_ne_nil, Text.isDigit_of_mem_toDigits⟩

/-- The digits of a number begin with a zero only when they are one zero. -/
theorem zero_alone_toDigits {n : Nat} (h : (Nat.toDigits 10 n).head? = some '0') :
    Nat.toDigits 10 n = ['0'] := by
  rw [Text.eq_zero_of_head?_toDigits h, Nat.toDigits_zero]

/-- A zero is digits of the grammar. -/
theorem digits_zero : Digits ['0'] := ⟨List.cons_ne_nil _ _, @isDigit_of_mem_zeros 1⟩

/-- The minus of a negative number. -/
def minus (negative : Bool) : List Char := if negative then ['-'] else []

/-- A sign as it is written. -/
theorem toList_sign (negative : Bool) : (if negative then "-" else "").toList = minus negative := by
  cases negative <;> rfl

/-! ### Integers -/

-- The sign is a variable in the next two lemmas: with a sign given, the kernel would evaluate the
-- bounds of the range in unary.

/-- Digits alone denote their integer. -/
theorem numberOf_digits {n : Json.Number} (hnegative : negative = false)
    (h : Number.ofInt? (digitsValue whole) = some n) :
    Document.numberOf negative whole none none = .value n := by
  have hsign : ¬ negative = true := by rw [hnegative]; decide
  unfold Document.numberOf
  dsimp only
  rw [if_neg hsign, h]

/-- Digits behind a minus denote the negated integer, unless they are too many or zero. -/
theorem numberOf_negated {n : Json.Number} (hnegative : negative = true)
    (hrange : ¬ (digitsValue whole = 0 ∨ 9223372036854775808 < digitsValue whole))
    (h : Number.ofInt? (-(digitsValue whole : Int)) = some n) :
    Document.numberOf negative whole none none = .value n := by
  unfold Document.numberOf
  dsimp only
  rw [if_pos hnegative, if_neg hrange, h]

/-- An integer is written as its digits behind its sign. -/
theorem writtenAs_int (i : Int) (h : -9223372036854775808 ≤ i ∧ i < 18446744073709551616) :
    WrittenAs (.int i h) (toString i).toList := by
  have hint : Number.ofInt? i = some (.int i h) := dif_pos h
  cases i with
  | ofNat n =>
    refine ⟨⟨false, Nat.toDigits 10 n, none, none, digits_toDigits n, zero_alone_toDigits,
      fun _ hp => nomatch hp⟩, ?_, numberOf_digits rfl ?_⟩
    · have htext : toString (Int.ofNat n) = toString n := rfl
      rw [htext, Nat.toString_eq_ofList_toDigits, String.toList_ofList]
      simp [Numeral.text, Numeral.fraction]
    · rwa [Text.digitsValue_toDigits]
  | negSucc n =>
    refine ⟨⟨true, Nat.toDigits 10 (n + 1), none, none, digits_toDigits _, zero_alone_toDigits,
      fun _ hp => nomatch hp⟩, ?_, numberOf_negated rfl ?_ ?_⟩
    · have htext : toString (Int.negSucc n) = "-" ++ toString (n + 1) := rfl
      rw [htext, Nat.toString_eq_ofList_toDigits, String.toList_append, String.toList_ofList]
      simp [Numeral.text, Numeral.fraction]
    · rw [Text.digitsValue_toDigits]
      omega
    · rwa [Text.digitsValue_toDigits]

/-! ### Floating-point numbers -/

/-- Digits with a point or an exponent denote the number that their decimal is read as. -/
theorem numberOf_decimal {exponent? : Option Int} (hform : places? ≠ none ∨ exponent? ≠ none)
    (hfinite : x.IsFinite)
    (h : Binary64.ofDecimal negative (digitsValue (whole ++ places?.getD []))
      (exponent?.getD 0 - (places?.getD []).length) = x) :
    Document.numberOf negative whole places? exponent? = .value (.float x hfinite) := by
  subst h
  unfold Document.numberOf
  cases places? with
  | some places =>
    dsimp only
    rw [Number.ofBinary64?, dif_pos hfinite]
  | none =>
    cases exponent? with
    | none => simp at hform
    | some exponent =>
      dsimp only
      rw [Number.ofBinary64?, dif_pos hfinite]

/-- Digits with a point among them are written for the number that their decimal is read as. -/
theorem writtenAs_point (negative : Bool) {places : List Char} (hwhole : Digits whole)
    (halone : whole.head? = some '0' → whole = ['0']) (hplaces : Digits places)
    (hfinite : x.IsFinite)
    (h : Binary64.ofDecimal negative (digitsValue (whole ++ places)) (0 - places.length) = x) :
    WrittenAs (.float x hfinite) (minus negative ++ (whole ++ '.' :: places)) := by
  refine ⟨⟨negative, whole, some places, none, hwhole, halone, ?_⟩, ?_, ?_⟩
  · rintro _ ⟨⟩
    exact hplaces
  · simp [Numeral.text, Numeral.fraction, minus]
  · exact numberOf_decimal (.inl (Option.some_ne_none _)) hfinite h

/-- A zero is written with a point. -/
theorem writtenAs_zero (hfinite : x.IsFinite) (hzero : x.magnitude = 0) :
    WrittenAs (.float x hfinite) (minus x.negative ++ ['0', '.', '0']) := by
  refine writtenAs_point x.negative digits_zero (fun _ => rfl) digits_zero hfinite ?_
  have hvalue : digitsValue (['0'] ++ ['0']) = 0 := rfl
  rw [hvalue, Binary64.ofDecimal_zero]
  exact Binary64.eq_of_magnitude rfl hzero.symm

/-- The decimal of a number is written positionally. -/
theorem writtenAs_plainText {d : Decimal} (hdigits : d.digits ≠ 0) (hfinite : x.IsFinite)
    (h : Binary64.ofDecimal negative d.digits d.exponent = x) :
    WrittenAs (.float x hfinite) (minus negative ++ (d.plainText true).toList) := by
  obtain ⟨whole, places, hwritten, -, htext⟩ := Decimal.exists_positional true hdigits
  rw [htext]
  -- a zero stands behind the point if there are no places
  have hpoint {places : List Char} (hne : places ≠ []) (hwritten : d.Positional whole places) :
      WrittenAs (.float x hfinite) (minus negative ++ (whole ++ '.' :: places)) := by
    obtain ⟨hwhole, hplaces⟩ := List.forall_mem_append.1 hwritten.isDigit
    exact writtenAs_point negative ⟨hwritten.whole_ne_nil, hwhole⟩ hwritten.zero_alone
      ⟨hne, hplaces⟩ hfinite ((hwritten.ofDecimal_eq negative).trans h)
  rcases eq_or_ne places [] with rfl | hne
  · exact hpoint (List.cons_ne_nil _ _) hwritten.point_zero
  · rw [Decimal.fraction_of_ne_nil true hne]
    exact hpoint hne hwritten

/-! #### The decimal with an exponent -/

/-- An exponent as it is written. -/
def exponentOf (e : Int) : Exponent where
  mark := 'e'
  sign := if e < 0 then ['-'] else ['+']
  digits := Nat.toDigits 10 e.natAbs
  mark_mem := by decide
  sign_mem := by split <;> decide
  digits_digits := digits_toDigits _

/-- An exponent is written as itself. -/
theorem value_exponentOf (e : Int) : (exponentOf e).value = e := by
  unfold exponentOf Exponent.value
  dsimp only
  rw [Text.digitsValue_toDigits]
  by_cases h : e < 0
  · simp only [if_pos h, if_true]
    omega
  · simp only [if_neg h, List.cons.injEq, Char.reduceEq, and_true, if_false]
    omega

/-- The text of an exponent. -/
theorem text_exponentOf (e : Int) :
    (exponentOf e).text = 'e' :: ((if e < 0 then "-" else "+") ++ toString e.natAbs).toList := by
  rw [exponentOf, Exponent.text, Nat.toString_eq_ofList_toDigits, String.toList_append,
    String.toList_ofList]
  split <;> rfl

/-- Digits with an exponent are written for the number that their decimal is read as. -/
theorem writtenAs_exponent (negative : Bool) (places? : Option (List Char)) (hwhole : Digits whole)
    (halone : whole.head? = some '0' → whole = ['0'])
    (hplaces : ∀ places ∈ places?, Digits places) (e : Int) (hfinite : x.IsFinite)
    (h : Binary64.ofDecimal negative (digitsValue (whole ++ places?.getD []))
      (e - (places?.getD []).length) = x) :
    WrittenAs (.float x hfinite)
      (minus negative ++ (whole ++ ((places?.map ('.' :: ·)).getD [] ++ (exponentOf e).text))) := by
  refine ⟨⟨negative, whole, places?, some (exponentOf e), hwhole, halone, hplaces⟩, ?_, ?_⟩
  · cases places? <;> simp [Numeral.text, Numeral.fraction, minus]
  · refine numberOf_decimal (.inr (Option.some_ne_none _)) hfinite ?_
    rw [value_exponentOf]
    exact h

/-- The decimal of a number is written with an exponent. -/
theorem writtenAs_scientificText {d : Decimal} (hdigits : d.digits ≠ 0) (hfinite : x.IsFinite)
    (h : Binary64.ofDecimal negative d.digits d.exponent = x) :
    WrittenAs (.float x hfinite) (minus negative ++ d.scientificText.toList) := by
  obtain ⟨hne, hdigit, hhead, hvalue⟩ := Decimal.significant_digitChars hdigits
  unfold Decimal.scientificText
  dsimp only
  generalize Decimal.digitChars d.digits = digits at *
  obtain ⟨c, rest, rfl⟩ := List.exists_cons_of_ne_nil hne
  rw [List.forall_mem_cons] at hdigit
  have hwhole : Digits [c] := ⟨List.cons_ne_nil _ _, by simpa using hdigit.1⟩
  have halone : [c].head? = some '0' → [c] = ['0'] := fun hc => absurd hc hhead
  have hexponent (e : Int) (k : Nat) : e + (k + 1 : Nat) - 1 - k = e := by omega
  -- the digits behind the first one stand behind a point, if there are any
  cases rest with
  | nil =>
    have htext := writtenAs_exponent negative none hwhole halone
      (fun _ hp => nomatch hp) (d.exponent + [c].length - 1) hfinite (by
        rw [Option.getD_none, List.append_nil, hvalue, ← h]
        exact congrArg _ (hexponent d.exponent 0))
    simpa [text_exponentOf, String.toList_append] using htext
  | cons c' rest =>
    have hplaces : Digits (c' :: rest) := ⟨List.cons_ne_nil _ _, hdigit.2⟩
    have htext := writtenAs_exponent negative (some (c' :: rest)) hwhole halone
      (fun _ hp => Option.mem_some.1 hp ▸ hplaces) (d.exponent + (c :: c' :: rest).length - 1) hfinite (by
        rw [Option.getD_some, List.singleton_append, hvalue, ← h]
        exact congrArg _ (hexponent d.exponent (c' :: rest).length))
    simpa [text_exponentOf, String.toList_append] using htext

/-- What is written for a number is a number of the grammar that denotes it. -/
theorem writtenAs_text (n : Json.Number) : n.WrittenAs n.text.toList := by
  cases n with
  | int i h => exact writtenAs_int i h
  | float x hfinite =>
    rw [text, Binary64.render]
    by_cases hzero : x.magnitude = 0
    · have htext := writtenAs_zero hfinite hzero
      rw [if_pos hzero, String.toList_append, String.toList_append, toList_sign, List.append_assoc]
      exact htext
    · obtain ⟨hdigits, hread⟩ := Binary64.readsBack_shortest NumberStyle.json.tie hfinite hzero
      rw [if_neg hzero]
      dsimp only
      rw [String.toList_append, toList_sign]
      split
      · exact writtenAs_plainText hdigits hfinite hread
      · exact writtenAs_scientificText hdigits hfinite hread

end Json.Number

/-! ## Strings -/

namespace Json

open Document (CodeUnit StringToken hexCode? pairUnits)
open Json.Grammar (Quoted Spelled Units)

/-- The two hexadecimal digits of a control character are read as its number. -/
theorem hexCode?_control : ∀ n < 0x20,
    hexCode? '0' '0' (Nat.digitChar (n / 16)) (Nat.digitChar (n % 16)) = some n := by
  decide

/-- A character as it is written spells itself, as a character or by its number. -/
theorem spelled_escape (c : Char) : ∃ u, Spelled (escape c) u ∧
    ∀ units, pairUnits none (u :: units) = (pairUnits none units).map (c :: ·) := by
  have hletter {letter : Char} (h : (letter, c) ∈ Grammar.escapes) : ∃ u, Spelled ['\\', letter] u ∧
      ∀ units, pairUnits none (u :: units) = (pairUnits none units).map (c :: ·) :=
    ⟨.char c, .escape h, fun units => by rw [pairUnits]⟩
  unfold escape
  -- the seven characters that a letter stands for
  iterate 7
    split
    · next h =>
      subst h
      exact hletter (by decide)
  split
  · next hcontrol =>
    refine ⟨.code c.toNat, .code (hexCode?_control c.toNat hcontrol), fun units => ?_⟩
    have htrailing : Document.isTrailing c.toNat = false := by
      simp only [Document.isTrailing, Bool.and_eq_false_iff, decide_eq_false_iff_not]
      omega
    have hleading : Document.isLeading c.toNat = false := by
      simp only [Document.isLeading, Bool.and_eq_false_iff, decide_eq_false_iff_not]
      omega
    rw [pairUnits.eq_def]
    simp only [htrailing, hleading, Char.ofNat_toNat, Bool.false_eq_true, if_false]
  · next hquote hbackslash _ _ _ _ _ hcontrol =>
    exact ⟨.char c, .plain (Nat.not_lt.1 hcontrol) hquote hbackslash, fun units => by rw [pairUnits]⟩

/-- Characters as they are written are the units of a string of these characters. -/
theorem units_escape (cs t : List Char) : ∃ units, Units (cs.flatMap escape ++ '"' :: t) units t ∧
    pairUnits none units = .ok cs := by
  induction cs with
  | nil => exact ⟨[], .close t, rfl⟩
  | cons c cs ih =>
    obtain ⟨units, hunits, hpairs⟩ := ih
    obtain ⟨u, hspelled, hpair⟩ := spelled_escape c
    refine ⟨u :: units, ?_, ?_⟩
    · rw [List.flatMap_cons, List.append_assoc]
      exact .cons hspelled hunits
    · rw [hpair, hpairs]
      rfl

/-- What is written for a string is the string in quotes. -/
theorem quoted_quote (s : String) (t : List Char) : Quoted ((quote s).toList ++ t) s t := by
  obtain ⟨units, hunits, hpairs⟩ := units_escape s.toList t
  have htext : (quote s).toList ++ t = '"' :: (s.toList.flatMap escape ++ '"' :: t) := by
    simp [quote]
  rw [htext]
  refine .mk hunits ?_
  rw [StringToken.strict, hpairs]
  exact congrArg Except.ok String.ofList_toList

end Json

end RowQuery
