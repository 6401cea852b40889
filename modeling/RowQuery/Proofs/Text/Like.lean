import Mathlib.Data.List.Forall2
import RowQuery.Text.Like

/-!
# What a match with wildcards says

`Text.Cut` says what it is for a text to match the pieces between the wildcards of a pattern: it can
be cut into the pieces in order, with any text between one and the next. `Text.like` looks for each
piece at the first place where it occurs, which leaves the most of the text for the pieces behind
it (`afterFirst_append`), so it finds a way to cut the text when there is one (`like_iff_cut`).
-/

namespace RowQuery.Text

variable {pieces : List (List Char)} {piece s t rest : List Char}

/-- Texts of the same characters but for their case. -/
def SameLetters (s t : List Char) : Prop := List.Forall₂ (fun c d => sameIgnoringCase c d = true) s t

/-- A text is pieces that are the same as those given, with any text between one and the next. -/
inductive Cut (same : List Char → List Char → Prop) : List (List Char) → List Char → Prop
  | last {piece s : List Char} (h : same piece s) : Cut same [piece] s
  | cons {piece s t : List Char} {pieces : List (List Char)} (h : same piece s)
    (between : List Char) (rest : Cut same pieces t) :
    Cut same (piece :: pieces) (s ++ (between ++ t))

section

variable {same : List Char → List Char → Prop}

/-- A text is one piece when it is the same. -/
theorem cut_singleton : Cut same [piece] s ↔ same piece s := by
  constructor
  · rintro (h | ⟨-, -, rest⟩)
    · exact h
    · cases rest
  · exact .last

/-- A text is several pieces when it begins with the first and ends in one that is the others. -/
theorem cut_cons (hne : pieces ≠ []) : Cut same (piece :: pieces) t ↔
    ∃ s between rest, t = s ++ (between ++ rest) ∧ same piece s ∧ Cut same pieces rest := by
  constructor
  · rintro (h | ⟨h, between, rest⟩)
    · exact absurd rfl hne
    · exact ⟨_, between, _, rfl, h, rest⟩
  · rintro ⟨s, between, rest, rfl, h, hrest⟩
    exact .cons h between hrest

end

/-! ## Case -/

/-- Texts are the same but for case when they are the same folded. -/
theorem sameLetters_iff : SameLetters s t ↔ s.map fold = t.map fold := by
  unfold SameLetters sameIgnoringCase
  rw [← List.forall₂_eq_eq_eq, List.forall₂_map_left_iff, List.forall₂_map_right_iff]
  simp only [beq_iff_eq]

/-- A text is cut as its folded text is. -/
theorem cut_sameLetters_iff :
    Cut SameLetters pieces t ↔ Cut Eq (pieces.map (·.map fold)) (t.map fold) := by
  induction pieces generalizing t with
  | nil => exact iff_of_false (fun h => by cases h) (fun h => by cases h)
  | cons piece pieces ih =>
    by_cases hne : pieces = []
    · rw [hne, List.map_cons, List.map_nil, cut_singleton, cut_singleton, sameLetters_iff]
    · rw [List.map_cons, cut_cons hne, cut_cons (mt List.map_eq_nil_iff.1 hne)]
      constructor
      · rintro ⟨s, between, rest, rfl, h, hrest⟩
        exact ⟨s.map fold, between.map fold, rest.map fold, by rw [List.map_append, List.map_append],
          sameLetters_iff.1 h, ih.1 hrest⟩
      · rintro ⟨s, between, rest, ht, h, hrest⟩
        obtain ⟨s, behind, rfl, rfl, hbehind⟩ := List.map_eq_append_iff.1 ht
        obtain ⟨between, rest, rfl, rfl, rfl⟩ := List.map_eq_append_iff.1 hbehind
        exact ⟨s, between, rest, rfl, sameLetters_iff.2 h, ih.2 hrest⟩

/-! ## First occurrences -/

/-- A piece is found where it occurs. -/
theorem eq_append_of_afterFirst (h : afterFirst piece s = some rest) :
    ∃ before, s = before ++ (piece ++ rest) := by
  induction s with
  | nil =>
    rw [afterFirst] at h
    split at h
    · next hpiece =>
      cases h
      exact ⟨[], by rw [hpiece]; rfl⟩
    · cases h
  | cons c s ih =>
    rw [afterFirst] at h
    split at h
    · next hprefix =>
      cases h
      obtain ⟨behind, hbehind⟩ := List.isPrefixOf_iff_prefix.1 hprefix
      exact ⟨[], by rw [← hbehind, List.drop_left]; rfl⟩
    · obtain ⟨before, rfl⟩ := ih h
      exact ⟨c :: before, rfl⟩

/-- What follows an occurrence of a piece ends what follows its first occurrence. -/
theorem afterFirst_append (before piece behind : List Char) :
    ∃ between, afterFirst piece (before ++ (piece ++ behind)) = some (between ++ behind) := by
  induction before with
  | nil =>
    refine ⟨[], ?_⟩
    rw [List.nil_append, List.nil_append]
    cases hs : piece ++ behind with
    | nil =>
      obtain ⟨rfl, rfl⟩ := List.append_eq_nil_iff.1 hs
      rfl
    | cons c s =>
      rw [afterFirst, ← hs, if_pos (List.isPrefixOf_iff_prefix.2 (List.prefix_append piece behind)),
        List.drop_left]
  | cons c before ih =>
    rw [List.cons_append, afterFirst]
    split
    · next hprefix =>
      obtain ⟨rest, hrest⟩ := List.isPrefixOf_iff_prefix.1 hprefix
      rw [← hrest, List.drop_left]
      have hlength := congrArg List.length hrest
      simp only [List.length_append, List.length_cons] at hlength
      have hsuffix : behind <:+ rest := by
        have hbehind : behind <:+ c :: (before ++ (piece ++ behind)) :=
          ⟨c :: (before ++ piece), by simp⟩
        exact List.suffix_of_suffix_length_le hbehind ⟨piece, hrest⟩ (by omega)
      obtain ⟨between, rfl⟩ := hsuffix
      exact ⟨between, rfl⟩
    · exact ih

/-! ## Pieces in order -/

/-- The pieces are held by a text that ends in one that is cut into them. -/
theorem holdsPieces_iff (hne : pieces ≠ []) : holdsPieces pieces s = true ↔
    ∃ before t, s = before ++ t ∧ Cut Eq pieces t := by
  induction pieces generalizing s with
  | nil => exact absurd rfl hne
  | cons piece pieces ih =>
    cases pieces with
    | nil =>
      simp only [holdsPieces, List.isSuffixOf_iff_suffix, cut_singleton]
      constructor
      · rintro ⟨before, rfl⟩
        exact ⟨before, piece, rfl, rfl⟩
      · rintro ⟨before, t, rfl, rfl⟩
        exact ⟨before, rfl⟩
    | cons next pieces =>
      have hnext := List.cons_ne_nil next pieces
      simp only [cut_cons hnext]
      rw [holdsPieces]
      · constructor
        · intro h
          split at h
          · next rest hrest =>
            obtain ⟨before, rfl⟩ := eq_append_of_afterFirst hrest
            obtain ⟨between, t, rfl, ht⟩ := (ih hnext).1 h
            exact ⟨before, _, rfl, piece, between, t, rfl, rfl, ht⟩
          · cases h
        · rintro ⟨before, _, rfl, _, between, t, rfl, rfl, ht⟩
          obtain ⟨more, hmore⟩ := afterFirst_append before piece (between ++ t)
          rw [hmore]
          exact (ih hnext).2 ⟨more ++ between, t, by rw [List.append_assoc], ht⟩
      · exact hnext

/-- The pieces match a text that is cut into them. -/
theorem matchesPieces_iff (hne : pieces ≠ []) :
    matchesPieces pieces s = true ↔ Cut Eq pieces s := by
  cases pieces with
  | nil => exact absurd rfl hne
  | cons piece pieces =>
    cases pieces with
    | nil => rw [matchesPieces, beq_iff_eq, cut_singleton]
    | cons next pieces =>
      have hnext := List.cons_ne_nil next pieces
      rw [matchesPieces, Bool.and_eq_true, List.isPrefixOf_iff_prefix, holdsPieces_iff hnext,
        cut_cons hnext]
      · constructor
        · rintro ⟨⟨behind, rfl⟩, between, t, h, ht⟩
          rw [List.drop_left] at h
          exact ⟨piece, between, t, by rw [h], rfl, ht⟩
        · rintro ⟨_, between, t, rfl, rfl, ht⟩
          rw [List.drop_left]
          exact ⟨List.prefix_append _ _, between, t, rfl, ht⟩
      · exact hnext

/-- A text matches a pattern when it is cut into the pieces between the wildcards, but for case. -/
theorem like_iff_cut (pattern text : String) : like pattern text = true ↔
    Cut SameLetters (Text.pieces (· == '%') pattern.toList) text.toList := by
  have hne : (Text.pieces (· == '%') pattern.toList).map (·.map fold) ≠ [] := by
    intro h
    have hlength := length_pieces (· == '%') pattern.toList
    rw [List.map_eq_nil_iff.1 h] at hlength
    cases hlength
  rw [like, matchesPieces_iff hne, cut_sameLetters_iff]

end RowQuery.Text
