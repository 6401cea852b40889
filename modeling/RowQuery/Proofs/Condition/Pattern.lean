import RowQuery.Proofs.Binary64.Text
import RowQuery.Proofs.Condition.Ranking
import RowQuery.Proofs.Text.Regex

/-!
# Comparisons with patterns

In a comparison with a pattern every scalar other than null has one text (`Scalar.InPattern`): a
Boolean is a digit, a number is written out, and a text is itself. The comparison asks whether the
text of the cell can be cut into the pieces between the wildcards of the operand (`Text.Cut`), or
found by the regular expression of the pattern (`Regex.Finds`). It and its negation answer neither
of a null (`Comparison.pattern_cuts_text`).
-/

namespace RowQuery

open Text (SameLetters Cut)

variable {cell operand : Scalar} {row : Row} {column : String}

namespace Scalar

variable {v : Scalar} {t : String}

/-- The text of a scalar in a comparison with a pattern. A null has none. -/
inductive InPattern : Scalar → String → Prop
  | false : InPattern (.bool false) "0"
  | true : InPattern (.bool true) "1"
  /-- An integer is its digits, behind a minus if it is negative. -/
  | int (i : Int64) : InPattern (.int i) (toString i.toInt)
  | float {x : Binary64} {t : String} (h : x.HasText t) : InPattern (.float x) t
  | text (t : String) : InPattern (.text t) t

/-- The scalars other than null have one text, the one that is matched. -/
theorem inPattern_iff : v.InPattern t ↔ v ≠ .null ∧ t = Operator.likeText v := by
  constructor
  · intro h
    cases h with
    | false | true | int | text => exact ⟨Scalar.noConfusion, rfl⟩
    | float h => exact ⟨Scalar.noConfusion, Binary64.hasText_iff.1 h⟩
  · rintro ⟨hnull, rfl⟩
    cases v with
    | null => exact absurd rfl hnull
    | bool b =>
      cases b with
      | false => exact .false
      | true => exact .true
    | int i => exact .int i
    | float x => exact .float (Binary64.hasText_text x)
    | text t => exact .text t

/-- Only null is null. -/
theorem isNull_iff : v.isNull = true ↔ v = .null := by
  cases v with
  | null => exact iff_of_true rfl rfl
  | bool | int | float | text => exact iff_of_false Bool.false_ne_true Scalar.noConfusion

end Scalar

namespace Operator

/-- A cell and an operand to match are there, and the operand is not too large as a pattern. -/
theorem likeMatch?_eq_some (hcell : cell ≠ .null) (hoperand : operand ≠ .null)
    (hfits : Text.fitsPattern (likeText operand) = true) :
    likeMatch? cell operand = .ok (some (Text.like (likeText operand) (likeText cell))) := by
  rw [ne_eq, ← Scalar.isNull_iff, Bool.not_eq_true] at hcell hoperand
  rw [likeMatch?, hcell, hoperand, hfits]
  rfl

/-- Nothing is known to match a null. -/
theorem likeMatch?_eq_none (h : cell = .null ∨ operand = .null) :
    likeMatch? cell operand = .ok none := by
  rw [← Scalar.isNull_iff, ← Scalar.isNull_iff, ← Bool.or_eq_true_iff] at h
  rw [likeMatch?, if_pos h]

end Operator

namespace Comparison

/-- What a comparison with a pattern and its negation answer: the one that the text of the cell can
be cut into the pieces between the wildcards, which is what the regular expression of the pattern
finds, and the other that it cannot; neither holds of a null. -/
structure AnswersPattern (cell operand : Scalar) (like notLike : Bool) : Prop where
  /-- The comparison holds of texts that are cut into the pieces. -/
  cut : like = true ↔ ∃ t p, cell.InPattern t ∧ operand.InPattern p ∧
    Cut SameLetters (Text.pieces (· == '%') p.toList) t.toList
  /-- The negated comparison holds of the others. -/
  notCut : notLike = true ↔ ∃ t p, cell.InPattern t ∧ operand.InPattern p ∧
    ¬ Cut SameLetters (Text.pieces (· == '%') p.toList) t.toList
  /-- One of the two holds unless there is a null. -/
  opposite : cell ≠ .null → operand ≠ .null → notLike = !like
  /-- Neither holds of a null. -/
  null : cell = .null ∨ operand = .null → like = false ∧ notLike = false
  /-- The comparison holds of texts in which the regular expression of the pattern is found. -/
  found : ∀ p, operand.InPattern p → ∃ items, Regex.read? (Regex.ofPattern p) = some items ∧
    (like = true ↔ ∃ t, cell.InPattern t ∧ Regex.Finds items t)

/-- A comparison with a pattern holds when the text of the cell can be cut into the pieces between
the wildcards, and the negated one holds when it cannot. -/
theorem pattern_cuts_text (hcell : row.cell column = .ok cell)
    (hfits : ∀ t p, cell.InPattern t → operand.InPattern p → Text.fitsPattern p = true) :
    ∃ like notLike, (⟨column, .like, .single operand⟩ : Comparison).holds row = .ok like ∧
      (⟨column, .notLike, .single operand⟩ : Comparison).holds row = .ok notLike ∧
      AnswersPattern cell operand like notLike := by
  rw [holds_single hcell, holds_single hcell, Operator.holds, Operator.holds]
  by_cases hnull : cell = .null ∨ operand = .null
  · rw [Operator.likeMatch?_eq_none hnull]
    have hno (related : String → String → Prop) :
        ¬ ∃ t p, cell.InPattern t ∧ operand.InPattern p ∧ related t p := by
      rintro ⟨t, p, ht, hp, -⟩
      exact hnull.elim (Scalar.inPattern_iff.1 ht).1 (Scalar.inPattern_iff.1 hp).1
    refine ⟨false, false, rfl, rfl, iff_of_false Bool.false_ne_true (hno _),
      iff_of_false Bool.false_ne_true (hno _), fun h h' => absurd hnull (not_or.2 ⟨h, h'⟩),
      fun _ => ⟨rfl, rfl⟩, fun p hp => ?_⟩
    obtain ⟨items, hread, -⟩ := Regex.finds_ofPattern p ""
    refine ⟨items, hread, iff_of_false Bool.false_ne_true ?_⟩
    rintro ⟨t, ht, -⟩
    exact hno (fun _ _ => True) ⟨t, p, ht, hp, trivial⟩
  · obtain ⟨hcellNull, hoperandNull⟩ := not_or.1 hnull
    have ht {t : String} : cell.InPattern t ↔ t = Operator.likeText cell := by
      rw [Scalar.inPattern_iff, and_iff_right hcellNull]
    have hp {p : String} : operand.InPattern p ↔ p = Operator.likeText operand := by
      rw [Scalar.inPattern_iff, and_iff_right hoperandNull]
    rw [Operator.likeMatch?_eq_some hcellNull hoperandNull (hfits _ _ (ht.2 rfl) (hp.2 rfl))]
    obtain ⟨items, hread, hfinds⟩ :=
      Regex.finds_ofPattern (Operator.likeText operand) (Operator.likeText cell)
    refine ⟨_, _, rfl, rfl, ?_, ?_, ?_, fun h => absurd h hnull, ?_⟩
    · simp [ht, hp, Text.like_iff_cut]
    · simp [ht, hp, ← Text.like_iff_cut]
    · simp
    · rintro p h
      rw [hp.1 h]
      exact ⟨items, hread, by simp [ht, hfinds]⟩

/-- A text over two lines is cut into pieces that regular expressions would read otherwise, and a
Boolean and numbers are cut into pieces of the texts that they have. -/
theorem pattern_cuts_text_of_lines :
    AnswersPattern (.text "A.\n.[b]\n_") (.text "a.%[B%_") true false ∧
      AnswersPattern (.bool true) (.text "%1") true false ∧
      AnswersPattern (.bool false) (.bool true) false true ∧
      AnswersPattern (.int (-1205)) (.text "-1%05") true false ∧
      AnswersPattern (.float (.ofDecimal true 25 (-1))) (.text "-2.5%") true false := by
  have answers {cell operand : Scalar} {like notLike : Bool}
      (hfits : ∀ t p, cell.InPattern t → operand.InPattern p → Text.fitsPattern p = true)
      (hrun : (Row.ofScalars [("c", cell)]).cell "c" = .ok cell ∧
        (⟨"c", .like, .single operand⟩ : Comparison).holds (.ofScalars [("c", cell)]) = .ok like ∧
        (⟨"c", .notLike, .single operand⟩ : Comparison).holds (.ofScalars [("c", cell)]) =
          .ok notLike) :
      AnswersPattern cell operand like notLike := by
    obtain ⟨hcell, hlike, hnotLike⟩ := hrun
    obtain ⟨_, _, hlike', hnotLike', hanswers⟩ := pattern_cuts_text hcell hfits
    cases hlike.symm.trans hlike'
    cases hnotLike.symm.trans hnotLike'
    exact hanswers
  refine ⟨answers ?_ (by decide +kernel), answers ?_ (by decide +kernel),
    answers ?_ (by decide +kernel), answers ?_ (by decide +kernel), answers ?_ (by decide +kernel)⟩
  all_goals
    rintro _ _ - ⟨⟩
    decide

end Comparison

end RowQuery
