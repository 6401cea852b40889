import RowQuery.Proofs.Outcome
import RowQuery.Proofs.Sql.Outline
import RowQuery.Sql.Statement

/-!
# Relations of texts that writing keeps

Two texts that are put together in the same way are related as soon as their parts are, for every
relation that passes through what texts are made of (`Sql.Congruence`): one text behind another,
fixed texts without backquotes, and names where these are related themselves. Equality is such a
relation (`congruence_eq`), and so is having the same text outside of quoted segments, where names
have as many segments and stars in the same places (`congruence_sameErased`).
-/

namespace RowQuery.Sql

/-- The relation `r` of texts passes through writing where names are related by `ρ`. -/
structure Congruence (ρ r : String → String → Prop) : Prop where
  append : ∀ {s t s' t' : String}, r s t → r s' t' → r (s ++ s') (t ++ t')
  fixed : ∀ {s : String}, backquote ∉ s.toList → r s s
  isEmpty : ∀ {s t : String}, r s t → s.isEmpty = t.isEmpty
  name : ∀ {s t : String}, ρ s t → SameOutcome r (quoteIdentifier s) (quoteIdentifier t)

namespace Congruence

variable {ρ r : String → String → Prop}

/-- Related texts behind the same text. -/
theorem after (h : Congruence ρ r) {p s t : String} (hp : backquote ∉ p.toList) (hst : r s t) :
    r (p ++ s) (p ++ t) := h.append (h.fixed hp) hst

/-- Related texts before the same text. -/
theorem before (h : Congruence ρ r) {p s t : String} (hst : r s t) (hp : backquote ∉ p.toList) :
    r (s ++ p) (t ++ p) := h.append hst (h.fixed hp)

/-- No text. -/
theorem empty (h : Congruence ρ r) : r "" "" := h.fixed (by decide)

/-- Related texts in parentheses. -/
theorem parenthesized (h : Congruence ρ r) {s t : String} (hst : r s t) :
    r ("(" ++ s ++ ")") ("(" ++ t ++ ")") := h.before (h.after (by decide) hst) (by decide)

/-- Related texts that are joined by the same text. -/
theorem intercalate (h : Congruence ρ r) {sep : String} (hsep : backquote ∉ sep.toList)
    {texts texts' : List String} (htexts : List.Forall₂ r texts texts') :
    r (sep.intercalate texts) (sep.intercalate texts') := by
  induction htexts with
  | nil =>
    rw [String.intercalate_nil]
    exact h.empty
  | cons htext hrest ih =>
    cases hrest with
    | nil =>
      rw [String.intercalate_singleton, String.intercalate_singleton]
      exact htext
    | cons hnext hrest =>
      rw [String.intercalate_cons_cons, String.intercalate_cons_cons]
      exact h.append (h.append htext (h.fixed hsep)) ih

/-- Related texts between commas. -/
theorem commaSeparated (h : Congruence ρ r) {texts texts' : List String}
    (htexts : List.Forall₂ r texts texts') : r (", ".intercalate texts) (", ".intercalate texts') :=
  h.intercalate (by decide) htexts

/-- Related lines. -/
theorem ofLines (h : Congruence ρ r) {lines lines' : List String}
    (hlines : List.Forall₂ r lines lines') : r (ofLines lines) (ofLines lines') :=
  h.intercalate (by decide) hlines

/-- As many markers. -/
theorem markers (h : Congruence ρ r) (n : Nat) : r (markers n) (markers n) := by
  refine h.commaSeparated (List.forall₂_same.2 fun text htext => ?_)
  rw [List.eq_of_mem_replicate htext]
  exact h.fixed (by decide)

/-- Lists of related names. -/
theorem quoteList (h : Congruence ρ r) {names names' : List String}
    (hnames : List.Forall₂ ρ names names') :
    SameOutcome r (quoteList names) (quoteList names') := by
  refine (SameOutcome.mapM (hnames.imp fun _ _ hρ => h.name hρ)).bind fun texts texts' htexts => ?_
  exact .ok (h.commaSeparated htexts)

end Congruence

/-! ## Equal texts -/

/-- Writing the same names keeps texts equal. -/
theorem congruence_eq : Congruence Eq Eq where
  append h h' := by rw [h, h']
  fixed _ := rfl
  isEmpty h := by rw [h]
  name h := h ▸ .refl (fun _ => rfl) _

/-! ## Equal texts outside of quoted segments -/

/-- The names can be quoted, and have as many segments and stars in the same places. -/
structure SameShape (s t : String) : Prop where
  left : backquote ∉ s.toList
  right : backquote ∉ t.toList
  stars : (Text.pieces (· == '.') s.toList).map (fun segment => decide (segment = ['*'])) =
    (Text.pieces (· == '.') t.toList).map fun segment => decide (segment = ['*'])

/-- The texts are the same but for what their quoted segments hold, and these are all closed. -/
structure SameErased (s t : String) : Prop where
  left : Balanced s
  right : Balanced t
  erased_eq : erased s = erased t

/-- A balanced text is the same as itself. -/
theorem SameErased.refl {s : String} (h : Balanced s) : SameErased s s := ⟨h, h, rfl⟩

/-- Only an empty text has nothing outside of quoted segments. -/
theorem erased_eq_empty_iff {s : String} : erased s = "" ↔ s = "" := by
  constructor
  · intro h
    have houtline : outline id false s.toList = [] := by
      rw [← String.toList_ofList (l := outline id false s.toList)]
      exact congrArg String.toList h
    cases hs : s.toList with
    | nil => exact String.toList_eq_nil_iff.1 hs
    | cons c l =>
      rw [hs, outline] at houtline
      split at houtline <;> cases houtline
  · rintro rfl
    rfl

/-- Names of the same shape are the same but for what their segments hold. -/
theorem SameShape.sameErased_quoted {s t : String} (h : SameShape s t) :
    SameErased (quoted s) (quoted t) where
  left := balanced_quoted h.left
  right := balanced_quoted h.right
  erased_eq := by
    have herased : ∀ segments : List (List Char), segments.map erasedSegment =
        (segments.map fun segment => decide (segment = ['*'])).map
          fun star => if star then "*" else "``" := by
      intro segments
      rw [List.map_map]
      refine List.map_congr_left fun segment _ => ?_
      simp [erasedSegment]
    rw [erased_quoted h.left, erased_quoted h.right, herased, herased, h.stars]

/-- Writing names of the same shape keeps texts the same outside of quoted segments. -/
theorem congruence_sameErased : Congruence SameShape SameErased where
  append h h' := {
    left := h.left.append h'.left
    right := h.right.append h'.right
    erased_eq := by
      rw [erased_append h.left, erased_append h.right, h.erased_eq, h'.erased_eq] }
  fixed h := .refl (balanced_of_not_mem h)
  isEmpty h := by
    rw [Bool.eq_iff_iff, String.isEmpty_iff, String.isEmpty_iff, ← erased_eq_empty_iff, h.erased_eq,
      erased_eq_empty_iff]
  name h := by
    rw [quoteIdentifier_eq_ok.2 ⟨h.left, rfl⟩, quoteIdentifier_eq_ok.2 ⟨h.right, rfl⟩]
    exact .ok h.sameErased_quoted

end RowQuery.Sql
