import RowQuery.Binary64.Style
import RowQuery.Proofs.Binary64.Positional
import RowQuery.Proofs.Binary64.Shortest

/-!
# The text of a number

`Binary64.HasText` says which text a floating-point number has: a name if it is not finite, and else
its shortest decimal (`Binary64.IsShortest`), written positionally (`Decimal.Positional`) and
without a zero that could be left out. Every number has one text, the one that is written
(`Binary64.hasText_iff`).
-/

namespace RowQuery.Binary64

variable {x : Binary64} {t : String}

/-- The text of a number. -/
inductive HasText (x : Binary64) : String → Prop
  | nan (h : x.IsNaN) : x.HasText "NaN"
  | infinity (h : x = infinity false) : x.HasText "inf"
  | negativeInfinity (h : x = infinity true) : x.HasText "-inf"
  | zero (h : x = zero false) : x.HasText "0"
  | negativeZero (h : x = zero true) : x.HasText "-0"
  /-- Of another number its sign and its shortest decimal, without a zero at the end of the places
  and without a point if there are none. -/
  | decimal {d : Decimal} {whole places : List Char} (hfinite : x.IsFinite)
      (hzero : x.magnitude ≠ 0) (hd : x.IsShortest d) (hwritten : d.Positional whole places)
      (hlast : places.getLast? ≠ some '0') :
      x.HasText (String.ofList ((if x.negative then ['-'] else []) ++ whole ++
        if places = [] then [] else '.' :: places))

/-- The text of a finite number other than zero is its sign and its shortest decimal. -/
theorem text_of_finite (hfinite : x.IsFinite) (hzero : x.magnitude ≠ 0) : x.text =
    (if x.negative then "-" else "") ++ (x.shortest .up).plainText false := by
  have hnan : ¬ x.IsNaN := fun h => hfinite h.1
  have hplain (leading : Int) : NumberStyle.positional.isPlain leading = true := rfl
  have htie : NumberStyle.positional.tie = .up := rfl
  have hkeeps : NumberStyle.positional.keepsPoint = false := rfl
  rw [text, if_neg hnan, if_pos hfinite, render, if_neg hzero]
  dsimp only
  rw [hplain, if_pos rfl, htie, hkeeps]

/-- The text of a finite number other than zero is made of the digits of its shortest decimal. -/
theorem exists_positional_text (hfinite : x.IsFinite) (hzero : x.magnitude ≠ 0) :
    ∃ whole places, (x.shortest .up).Positional whole places ∧ places.getLast? ≠ some '0' ∧
      x.text = String.ofList ((if x.negative then ['-'] else []) ++ whole ++
        if places = [] then [] else '.' :: places) := by
  have hshortest := isShortest_shortest hfinite hzero
  have hdigits : (x.shortest .up).digits ≠ 0 := fun h => hshortest.stripped (by rw [h])
  obtain ⟨whole, places, hwritten, hlast, htext⟩ := Decimal.exists_positional false hdigits
  refine ⟨whole, places, hwritten, hlast hshortest.stripped, ?_⟩
  rw [text_of_finite hfinite hzero, ← String.ofList_toList (s := _ ++ _), String.toList_append,
    htext, List.append_assoc]
  cases x.negative <;> rfl

/-- Every number has a text. -/
theorem hasText_text (x : Binary64) : x.HasText x.text := by
  by_cases hnan : x.IsNaN
  · have htext : x.text = "NaN" := if_pos hnan
    exact htext ▸ .nan hnan
  by_cases hfinite : x.IsFinite
  · by_cases hzero : x.magnitude = 0
    · have hx : x = zero x.negative := eq_of_magnitude rfl hzero
      rw [hx]
      cases x.negative with
      | false => exact .zero rfl
      | true => exact .negativeZero rfl
    · obtain ⟨whole, places, hwritten, hlast, htext⟩ := exists_positional_text hfinite hzero
      rw [htext]
      exact .decimal hfinite hzero (isShortest_shortest hfinite hzero) hwritten hlast
  · have hx : x = infinity x.negative := by
      obtain ⟨negative, exponent, fraction⟩ := x
      rw [not_and, not_not] at hnan
      rw [not_not] at hfinite
      dsimp only at hfinite hnan
      rw [hfinite, hnan hfinite]
      rfl
    rw [hx]
    cases x.negative with
    | false => exact .infinity rfl
    | true => exact .negativeInfinity rfl

/-- The text of a number is the one that is written. -/
theorem hasText_iff : x.HasText t ↔ t = x.text := by
  refine ⟨fun h => ?_, fun h => h ▸ hasText_text x⟩
  cases h with
  | nan h => exact (if_pos h).symm
  | infinity h | negativeInfinity h | zero h | negativeZero h =>
    rw [h]
    rfl
  | decimal hfinite hzero hd hwritten hlast =>
    obtain ⟨_, _, hwritten', hlast', htext⟩ := exists_positional_text hfinite hzero
    rw [hd.unique (isShortest_shortest hfinite hzero)] at hwritten
    obtain ⟨rfl, rfl⟩ := hwritten.unique hlast hwritten' hlast'
    exact htext.symm

end RowQuery.Binary64
