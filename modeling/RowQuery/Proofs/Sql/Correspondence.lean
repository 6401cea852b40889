import RowQuery.Condition.Fragment
import RowQuery.Proofs.Sql.Outline
import Mathlib.Data.List.Forall2

/-!
# Which value stands for which marker

A text with values is put together from stretches: the texts of sources, which supply values, and
fixed texts between them. `Sql.Corresponds` says that every marker of the whole text stands in the
text of the source that supplied its value. It holds when every stretch is by itself balanced and
has as many markers as values (`Sql.Laid`), and that passes from parts to the whole.
-/

namespace RowQuery.Sql

/-! ## Correspondence -/

/-- A stretch of a text. -/
inductive Stretch where
  /-- Text between sources. -/
  | fixed (text : String)
  /-- A text with the values that it supplies. -/
  | source (f : Fragment)

namespace Stretch

/-- The text of a stretch. -/
def text : Stretch → String
  | .fixed text => text
  | .source f => f.sql

/-- The values that a stretch supplies. -/
def values : Stretch → List Scalar
  | .fixed _ => []
  | .source f => f.values

/-- The source that a stretch is, if it is one. -/
def source? : Stretch → Option Fragment
  | .fixed _ => none
  | .source f => some f

/-- The text of stretches that follow each other. -/
def textOf : List Stretch → String
  | [] => ""
  | s :: rest => s.text ++ textOf rest

/-- The characters of stretches, each with the number of the stretch it stands in. -/
def places (n : Nat) : List Stretch → List (Char × Nat)
  | [] => []
  | s :: rest => s.text.toList.map (·, n) ++ places (n + 1) rest

/-- For every value that stretches supply the number of the stretch that supplies it. -/
def suppliers (n : Nat) : List Stretch → List Nat
  | [] => []
  | s :: rest => List.replicate s.values.length n ++ suppliers (n + 1) rest

end Stretch

/-- There are as many markers as values, the values are those of the sources in order, and every
marker stands in the text of the source that supplied its value. -/
structure Corresponds (sql : String) (values : List Scalar) (sources : List Fragment) : Prop where
  count : markerCount sql = values.length
  supplied : values = sources.flatMap Fragment.values
  placed : ∃ stretches, Stretch.textOf stretches = sql ∧
    stretches.filterMap Stretch.source? = sources ∧
      (markersIn Prod.fst (Stretch.places 0 stretches)).map Prod.snd =
        Stretch.suppliers 0 stretches

/-! ## Texts that are put together -/

/-- The text is balanced and has as many markers as there are values. -/
structure Paired (sql : String) (values : List Scalar) : Prop where
  balanced : Balanced sql
  count : markerCount sql = values.length

namespace Paired

/-- No text needs no values. -/
theorem nil : Paired "" [] := ⟨Even.zero, rfl⟩

/-- A text that is plain needs no values. -/
theorem plain {s : String} (h : Plain s) : Paired s [] :=
  ⟨balanced_of_not_mem h.1, h.markerCount_eq⟩

/-- The end of a line needs no values. -/
theorem newline : Paired "\n" [] := plain (by decide)

/-- A comma needs no values. -/
theorem comma : Paired ", " [] := plain (by decide)

/-- A marker needs one value. -/
theorem marker (v : Scalar) : Paired "?" [v] := ⟨by decide, rfl⟩

/-- A quoted name needs no values, whatever characters it holds. -/
theorem quoted {name : String} (h : backquote ∉ name.toList) : Paired (quoted name) [] :=
  ⟨balanced_quoted h, markerCount_quoted h⟩

/-- One text behind another needs the values of both. -/
theorem append {s t : String} {vs ws : List Scalar} (hs : Paired s vs) (ht : Paired t ws) :
    Paired (s ++ t) (vs ++ ws) where
  balanced := hs.balanced.append ht.balanced
  count := by rw [markerCount_append hs.balanced, hs.count, ht.count, List.length_append]

/-- Behind a fixed text the same values are needed. -/
theorem after {p s : String} {values : List Scalar} (hp : Plain p) (hs : Paired s values) :
    Paired (p ++ s) values := (plain hp).append hs

/-- Before a fixed text the same values are needed. -/
theorem before {s p : String} {values : List Scalar} (hs : Paired s values) (hp : Plain p) :
    Paired (s ++ p) values := by
  have h := hs.append (plain hp)
  rwa [List.append_nil] at h

/-- In parentheses the same values are needed. -/
theorem parenthesized {s : String} {values : List Scalar} (hs : Paired s values) :
    Paired ("(" ++ s ++ ")") values := (hs.after (by decide)).before (by decide)

/-- Texts that need no values may be joined. -/
theorem intercalate {sep : String} {texts : List String} (hsep : Paired sep [])
    (h : ∀ text ∈ texts, Paired text []) : Paired (sep.intercalate texts) [] := by
  induction texts with
  | nil => exact nil
  | cons text texts ih =>
    have htext := h text List.mem_cons_self
    cases texts with
    | nil => rwa [String.intercalate_singleton]
    | cons next rest =>
      rw [String.intercalate_cons_cons]
      exact (htext.append hsep).append (ih fun t ht => h t (List.mem_cons_of_mem _ ht))

end Paired

/-- The text is put together from the texts of these sources and others, each with as many markers
as values. -/
def Laid (sql : String) (sources : List Fragment) : Prop :=
  ∃ stretches, Stretch.textOf stretches = sql ∧ stretches.filterMap Stretch.source? = sources ∧
    ∀ s ∈ stretches, Paired s.text s.values

namespace Stretch

/-- The text of stretches behind others. -/
theorem textOf_append (l r : List Stretch) : textOf (l ++ r) = textOf l ++ textOf r := by
  induction l with
  | nil => rw [List.nil_append, textOf, String.empty_append]
  | cons s l ih => rw [List.cons_append, textOf, textOf, ih, String.append_assoc]

/-- The stretches of an empty text are empty. -/
theorem text_eq_empty {stretches : List Stretch} (h : textOf stretches = "") {s : Stretch}
    (hs : s ∈ stretches) : s.text = "" := by
  induction stretches with
  | nil => cases hs
  | cons t stretches ih =>
    obtain ⟨ht, hrest⟩ := String.append_eq_empty_iff.1 h
    rcases List.mem_cons.1 hs with rfl | hs
    · exact ht
    · exact ih hrest hs

/-- Only sources supply values. -/
theorem values_source? (stretches : List Stretch) :
    (stretches.filterMap source?).flatMap Fragment.values = stretches.flatMap values := by
  induction stretches with
  | nil => rfl
  | cons s stretches ih =>
    cases s with
    | fixed text =>
      rw [List.filterMap_cons_none rfl, ih]
      rfl
    | source f =>
      rw [List.filterMap_cons_some (f := source?) rfl, List.flatMap_cons, ih]
      rfl

/-- Stretches with as many markers as values make such a text. -/
theorem paired_textOf {stretches : List Stretch} (h : ∀ s ∈ stretches, Paired s.text s.values) :
    Paired (textOf stretches) (stretches.flatMap values) := by
  induction stretches with
  | nil => exact .nil
  | cons s stretches ih =>
    exact (h s List.mem_cons_self).append (ih fun t ht => h t (List.mem_cons_of_mem _ ht))

/-- The markers of stretches with as many markers as values stand where the values come from. -/
theorem markersIn_places {stretches : List Stretch}
    (h : ∀ s ∈ stretches, Paired s.text s.values) (n : Nat) :
    (markersIn Prod.fst (places n stretches)).map Prod.snd = suppliers n stretches := by
  induction stretches generalizing n with
  | nil => rfl
  | cons s stretches ih =>
    have hs := h s List.mem_cons_self
    have heven : Even ((((s.text.toList).map (·, n)).map Prod.fst).count backquote) := by
      rw [List.map_map]
      exact (List.map_id s.text.toList).symm ▸ hs.balanced
    have hhere : (markersIn Prod.fst (s.text.toList.map (·, n))).map Prod.snd =
        List.replicate s.values.length n := by
      rw [markersIn_map, List.map_map, ← hs.count]
      exact List.map_const'
    rw [places, markersIn_append heven, List.map_append, hhere,
      ih fun t ht => h t (List.mem_cons_of_mem _ ht)]
    rfl

end Stretch

namespace Laid

/-- No text without sources. -/
theorem nil : Laid "" [] := ⟨[], rfl, rfl, nofun⟩

/-- A text that needs no values stands between sources. -/
theorem fixed {s : String} (h : Paired s []) : Laid s [] :=
  ⟨[.fixed s], String.append_empty, rfl, fun _ hs => List.mem_singleton.1 hs ▸ h⟩

/-- A source stands by itself. -/
theorem source {f : Fragment} (h : Paired f.sql f.values) : Laid f.sql [f] :=
  ⟨[.source f], String.append_empty, rfl, fun _ hs => List.mem_singleton.1 hs ▸ h⟩

/-- One text behind another has the sources of both. -/
theorem append {s t : String} {fs gs : List Fragment} (hs : Laid s fs) (ht : Laid t gs) :
    Laid (s ++ t) (fs ++ gs) := by
  obtain ⟨l, rfl, rfl, hl⟩ := hs
  obtain ⟨r, rfl, rfl, hr⟩ := ht
  refine ⟨l ++ r, Stretch.textOf_append l r, List.filterMap_append, fun s hs => ?_⟩
  rcases List.mem_append.1 hs with hs | hs
  · exact hl s hs
  · exact hr s hs

/-- Behind a fixed text the sources are the same. -/
theorem after {p s : String} {fs : List Fragment} (hp : Plain p) (hs : Laid s fs) :
    Laid (p ++ s) fs := (fixed (.plain hp)).append hs

/-- Before a fixed text the sources are the same. -/
theorem before {s p : String} {fs : List Fragment} (hs : Laid s fs) (hp : Plain p) :
    Laid (s ++ p) fs := by
  have h := hs.append (fixed (.plain hp))
  rwa [List.append_nil] at h

/-- In parentheses the sources are the same. -/
theorem parenthesized {s : String} {fs : List Fragment} (hs : Laid s fs) :
    Laid ("(" ++ s ++ ")") fs := (hs.after (by decide)).before (by decide)

/-- Texts joined by one that needs no values have the sources of all. -/
theorem intercalate {sep : String} (hsep : Paired sep []) {texts : List String}
    {sources : List (List Fragment)} (h : List.Forall₂ Laid texts sources) :
    Laid (sep.intercalate texts) sources.flatten := by
  induction h with
  | nil => exact .nil
  | @cons text fs texts sources htext hrest ih =>
    cases hrest with
    | nil =>
      rw [String.intercalate_singleton, List.flatten_singleton]
      exact htext
    | cons hnext hrest =>
      rw [String.intercalate_cons_cons, List.flatten_cons]
      have hall := (htext.append (fixed hsep)).append ih
      rwa [List.append_nil] at hall

/-- Sources joined by a text that needs no values. -/
theorem list {σ : Type} {sep : String} (hsep : Paired sep []) {text : σ → String}
    {source : σ → Fragment} {items : List σ} (h : ∀ i ∈ items, Laid (text i) [source i]) :
    Laid (sep.intercalate (items.map text)) (items.map source) := by
  have hitems : List.Forall₂ Laid (items.map text) (items.map fun i => [source i]) := by
    rw [List.forall₂_map_left_iff, List.forall₂_map_right_iff]
    exact List.forall₂_same.2 h
  have hall := intercalate hsep hitems
  rwa [← List.flatMap_def, ← List.map_eq_flatMap] at hall

/-- Lines have the sources of all. -/
theorem ofLines {lines : List String} {sources : List (List Fragment)}
    (h : List.Forall₂ Laid lines sources) : Laid (ofLines lines) sources.flatten :=
  intercalate .newline h

/-- A line among others that need no values. -/
theorem among {line : String} {before after : List String} {fs : List Fragment}
    (hbefore : ∀ s ∈ before, Paired s []) (hline : Laid line fs)
    (hafter : ∀ s ∈ after, Paired s []) : Laid (Sql.ofLines (before ++ line :: after)) fs := by
  have hfixed : ∀ texts : List String, (∀ s ∈ texts, Paired s []) →
      List.Forall₂ Laid texts (texts.map fun _ => []) := fun texts h =>
    List.forall₂_map_right_iff.2 (List.forall₂_same.2 fun s hs => fixed (h s hs))
  have hall := ofLines (List.rel_append (hfixed before hbefore) (.cons hline (hfixed after hafter)))
  simpa using hall

/-- The sources of an empty text are empty. -/
theorem eq_empty_of_mem {fs : List Fragment} (h : Laid "" fs) {f : Fragment} (hf : f ∈ fs) :
    f.sql = "" := by
  obtain ⟨stretches, htext, rfl, -⟩ := h
  obtain ⟨s, hs, he⟩ := List.mem_filterMap.1 hf
  have hs := Stretch.text_eq_empty htext hs
  cases s with
  | fixed text => cases he
  | source g =>
    cases he
    exact hs

/-- A text has as many markers as its sources supply values. -/
theorem paired {sql : String} {sources : List Fragment} (h : Laid sql sources) :
    Paired sql (sources.flatMap Fragment.values) := by
  obtain ⟨stretches, rfl, rfl, hpaired⟩ := h
  rw [Stretch.values_source?]
  exact Stretch.paired_textOf hpaired

/-- In a text that is put together from sources the markers stand where the values come from. -/
theorem corresponds {sql : String} {sources : List Fragment} (h : Laid sql sources) :
    Corresponds sql (sources.flatMap Fragment.values) sources := by
  have hcount := h.paired.count
  obtain ⟨stretches, rfl, rfl, hpaired⟩ := h
  exact ⟨hcount, rfl, stretches, rfl, rfl, Stretch.markersIn_places hpaired 0⟩

end Laid

/-! ## Lists of markers -/

/-- A marker with its value. -/
def place (v : Scalar) : Fragment := { sql := "?", values := [v] }

/-- The values of markers are the values that they were made for. -/
theorem flatMap_values_place (values : List Scalar) :
    (values.map place).flatMap Fragment.values = values := by
  rw [List.flatMap_map]
  exact List.flatMap_singleton' values

/-- The markers of a list are put together from one for each value. -/
theorem Laid.markers (values : List Scalar) : Laid (markers values.length) (values.map place) := by
  have hplaces : ∀ v ∈ values, Laid "?" [place v] := fun v _ =>
    source (f := place v) (Paired.marker v)
  have hall := list Paired.comma hplaces
  rwa [List.map_const'] at hall

/-- The markers of a list need its values. -/
theorem Paired.markers (values : List Scalar) : Paired (markers values.length) values := by
  have h := (Laid.markers values).paired
  rwa [flatMap_values_place] at h

end RowQuery.Sql
