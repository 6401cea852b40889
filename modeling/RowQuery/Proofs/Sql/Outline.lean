import RowQuery.Proofs.Sql.Identifier
import Mathlib.Algebra.Group.Nat.Even

/-!
# What stands outside of quoted segments

A backquote opens a quoted segment or closes one. `Sql.outline` is a text without what its quoted
segments hold, and a marker is a `?` in it (`Sql.markersIn`). In a text with evenly many backquotes
(`Sql.Balanced`) every segment is closed, so what follows is read as it is by itself
(`outline_append`). The text may carry more than characters: `char` says which character an element
is.
-/

namespace RowQuery.Sql

variable {α β : Type} {char : α → Char}

/-! ## The outline of a text -/

/-- The elements outside of quoted segments, with the backquotes around those. -/
def outline (char : α → Char) : Bool → List α → List α
  | _, [] => []
  | quoted, a :: l =>
    if char a = backquote then a :: outline char (!quoted) l
    else if quoted then outline char true l
    else a :: outline char false l

/-- Whether a segment is open behind these elements. -/
def opened (char : α → Char) (quoted : Bool) (l : List α) : Bool :=
  l.foldl (fun quoted a => if char a = backquote then !quoted else quoted) quoted

/-- The markers among the elements of a text. -/
def markersIn (char : α → Char) (l : List α) : List α :=
  (outline char false l).filter fun a => char a = '?'

/-- The number of markers of a text. -/
def markerCount (s : String) : Nat := (markersIn id s.toList).length

/-- The text without what its quoted segments hold. -/
def erased (s : String) : String := String.ofList (outline id false s.toList)

/-- The markers of a text are left when its segments are erased. -/
theorem markerCount_eq_count (s : String) : markerCount s = (erased s).toList.count '?' := by
  rw [erased, String.toList_ofList, List.count_eq_length_filter]
  rfl

/-- The text has evenly many backquotes. -/
def Balanced (s : String) : Prop := Even (s.toList.count backquote)

/-- The text holds neither a backquote nor a `?`. -/
def Plain (s : String) : Prop := backquote ∉ s.toList ∧ '?' ∉ s.toList

instance (s : String) : Decidable (Balanced s) := inferInstanceAs (Decidable (Even _))

instance (s : String) : Decidable (Plain s) := inferInstanceAs (Decidable (_ ∧ _))

/-! ## One text behind another -/

/-- What follows is read with a segment open or not, as the elements before leave it. -/
theorem outline_append_eq (quoted : Bool) (l r : List α) :
    outline char quoted (l ++ r) =
      outline char quoted l ++ outline char (opened char quoted l) r := by
  induction l generalizing quoted with
  | nil => rfl
  | cons a l ih =>
    rw [List.cons_append, outline, outline, opened, List.foldl_cons]
    split
    · rw [ih, List.cons_append, opened]
    · split
      · next hquoted => rw [ih, hquoted, opened]
      · next hquoted => rw [ih, eq_false_of_ne_true hquoted, List.cons_append, opened]

/-- An odd number of backquotes opens a segment, or closes one. -/
theorem opened_eq (quoted : Bool) (l : List α) :
    opened char quoted l = (quoted ^^ !decide (Even ((l.map char).count backquote))) := by
  induction l generalizing quoted with
  | nil => simp [opened]
  | cons a l ih =>
    unfold opened at ih ⊢
    rw [List.foldl_cons, ih, List.map_cons, List.count_cons]
    by_cases h : char a = backquote
    · have hnext : ∀ n : Nat, decide (Even (n + 1)) = !decide (Even n) := fun n => by
        rw [← decide_not]
        exact decide_eq_decide.2 Nat.even_add_one
      rw [if_pos h, if_pos (beq_iff_eq.2 h), hnext]
      cases quoted <;> cases decide (Even ((l.map char).count backquote)) <;> rfl
    · rw [if_neg h, if_neg (fun he => h (beq_iff_eq.1 he)), Nat.add_zero]

/-- What follows evenly many backquotes is read as it is by itself. -/
theorem outline_append {l : List α} (h : Even ((l.map char).count backquote)) (r : List α) :
    outline char false (l ++ r) = outline char false l ++ outline char false r := by
  rw [outline_append_eq, opened_eq, decide_eq_true h]
  rfl

/-- The markers behind evenly many backquotes are those of the text by itself. -/
theorem markersIn_append {l : List α} (h : Even ((l.map char).count backquote)) (r : List α) :
    markersIn char (l ++ r) = markersIn char l ++ markersIn char r := by
  rw [markersIn, outline_append h, List.filter_append, markersIn, markersIn]

/-- What else the elements carry does not matter to the outline. -/
theorem outline_map (g : β → α) (quoted : Bool) (l : List β) :
    outline char quoted (l.map g) = (outline (char ∘ g) quoted l).map g := by
  induction l generalizing quoted with
  | nil => rfl
  | cons b l ih =>
    rw [List.map_cons, outline, outline, Function.comp_apply]
    split
    · rw [ih, List.map_cons]
    · split
      · rw [ih]
      · rw [ih, List.map_cons]

/-- What else the elements carry does not matter to which of them are markers. -/
theorem markersIn_map (g : β → α) (l : List β) :
    markersIn char (l.map g) = (markersIn (char ∘ g) l).map g := by
  rw [markersIn, outline_map, List.filter_map, markersIn]
  rfl

/-- The backquotes of one text behind another are those of both. -/
theorem Balanced.append {s t : String} (hs : Balanced s) (ht : Balanced t) : Balanced (s ++ t) := by
  rw [Balanced, String.toList_append, List.count_append]
  exact Even.add hs ht

/-- Behind a balanced text another is erased as it is by itself. -/
theorem erased_append {s : String} (h : Balanced s) (t : String) :
    erased (s ++ t) = erased s ++ erased t := by
  rw [erased, String.toList_append, outline_append (by rwa [List.map_id]), String.ofList_append]
  rfl

/-- The markers of one text behind a balanced one are those of both. -/
theorem markerCount_append {s : String} (h : Balanced s) (t : String) :
    markerCount (s ++ t) = markerCount s + markerCount t := by
  rw [markerCount, String.toList_append, markersIn_append (by rwa [List.map_id]),
    List.length_append]
  rfl

/-! ## Texts without backquotes -/

/-- A text without backquotes is its own outline. -/
theorem outline_of_not_mem {l : List α} (h : backquote ∉ l.map char) :
    outline char false l = l := by
  induction l with
  | nil => rfl
  | cons a l ih =>
    rw [List.map_cons, List.mem_cons, not_or] at h
    rw [outline, if_neg (Ne.symm h.1), ih h.2]
    rfl

/-- A text without backquotes is balanced. -/
theorem balanced_of_not_mem {s : String} (h : backquote ∉ s.toList) : Balanced s := by
  rw [Balanced, List.count_eq_zero_of_not_mem h]
  exact Even.zero

/-- One plain text behind another is plain. -/
theorem Plain.append {s t : String} (hs : Plain s) (ht : Plain t) : Plain (s ++ t) := by
  rw [Plain, String.toList_append, List.mem_append, List.mem_append, not_or, not_or]
  exact ⟨⟨hs.1, ht.1⟩, hs.2, ht.2⟩

/-- A number is plain. -/
theorem plain_toString (n : Nat) : Plain (toString n) := by
  have hdigit : ∀ c ∈ (toString n).toList, c.isDigit = true := by
    intro c hc
    rw [Nat.toString_eq_ofList_toDigits, String.toList_ofList] at hc
    exact Nat.isDigit_of_mem_toDigits (by decide) (by decide) hc
  refine ⟨fun h => ?_, fun h => ?_⟩
  · exact absurd (hdigit _ h) (by decide)
  · exact absurd (hdigit _ h) (by decide)

/-- A text without backquotes and `?` has no markers. -/
theorem Plain.markerCount_eq {s : String} (h : Plain s) : markerCount s = 0 := by
  rw [markerCount, markersIn, outline_of_not_mem (by rw [List.map_id]; exact h.1),
    List.length_eq_zero_iff, List.filter_eq_nil_iff]
  intro c hc hmarker
  exact h.2 (of_decide_eq_true hmarker ▸ hc)

/-! ## Quoted names -/

/-- Within backquotes everything up to the next backquote is left out. -/
theorem outline_segment {segment : List Char} (h : backquote ∉ segment) (rest : List Char) :
    outline id true (segment ++ backquote :: rest) = backquote :: outline id false rest := by
  induction segment with
  | nil => rfl
  | cons c segment ih =>
    rw [List.mem_cons, not_or] at h
    have hc : ¬ id c = backquote := Ne.symm h.1
    rw [List.cons_append, outline, if_neg hc, if_pos rfl, ih h.2]

/-- A quoted segment without what it holds; a star by itself is not quoted. -/
def erasedSegment (segment : List Char) : String := if segment = ['*'] then "*" else "``"

/-- A segment as it is written has both of its backquotes. -/
theorem balanced_quoteSegment {segment : List Char} (h : backquote ∉ segment) :
    Balanced (String.ofList (quoteSegment segment)) := by
  unfold quoteSegment
  split
  · next hs =>
    subst hs
    decide
  · rw [Balanced, String.toList_ofList, List.count_cons_self, List.count_append,
      List.count_eq_zero_of_not_mem h]
    decide

/-- What a segment holds is left out. -/
theorem erased_quoteSegment {segment : List Char} (h : backquote ∉ segment) :
    erased (String.ofList (quoteSegment segment)) = erasedSegment segment := by
  unfold quoteSegment erasedSegment
  split
  · next hs =>
    subst hs
    rfl
  · rw [erased, String.toList_ofList]
    show String.ofList (backquote :: outline id true (segment ++ [backquote])) = _
    rw [outline_segment h]
    rfl

/-- Balanced texts joined by a balanced one are balanced. -/
theorem Balanced.intercalate {sep : String} {parts : List String} (hsep : Balanced sep)
    (h : ∀ part ∈ parts, Balanced part) : Balanced (sep.intercalate parts) := by
  induction parts with
  | nil => exact Even.zero
  | cons part parts ih =>
    have hpart := h part List.mem_cons_self
    cases parts with
    | nil => rwa [String.intercalate_singleton]
    | cons next rest =>
      rw [String.intercalate_cons_cons]
      exact (hpart.append hsep).append (ih fun q hq => h q (List.mem_cons_of_mem _ hq))

/-- Balanced texts that are joined are erased one by one. -/
theorem erased_intercalate {sep : String} {parts : List String} (hsep : Balanced sep)
    (h : ∀ part ∈ parts, Balanced part) :
    erased (sep.intercalate parts) = (erased sep).intercalate (parts.map erased) := by
  induction parts with
  | nil => rfl
  | cons part parts ih =>
    have hpart := h part List.mem_cons_self
    cases parts with
    | nil => rw [String.intercalate_singleton, List.map_singleton, String.intercalate_singleton]
    | cons next rest =>
      rw [String.intercalate_cons_cons, erased_append (hpart.append hsep), erased_append hpart,
        ih fun q hq => h q (List.mem_cons_of_mem _ hq)]
      exact String.intercalate_cons_cons.symm

variable {name : String}

/-- The segments of a name hold no backquote if the name holds none. -/
theorem balanced_of_mem_segments (h : backquote ∉ name.toList) {part : String}
    (hpart : part ∈ (Text.pieces (· == '.') name.toList).map fun s =>
      String.ofList (quoteSegment s)) : Balanced part := by
  obtain ⟨segment, hsegment, rfl⟩ := List.mem_map.1 hpart
  exact balanced_quoteSegment fun hb => h (Text.mem_of_mem_pieces hsegment hb).1

/-- A quoted name is balanced. -/
theorem balanced_quoted (h : backquote ∉ name.toList) : Balanced (quoted name) :=
  Balanced.intercalate (by decide) fun _ hpart => balanced_of_mem_segments h hpart

/-- Of a quoted name there remain its dots, its stars and its backquotes. -/
theorem erased_quoted (h : backquote ∉ name.toList) :
    erased (quoted name) =
      ".".intercalate ((Text.pieces (· == '.') name.toList).map erasedSegment) := by
  rw [quoted, erased_intercalate (by decide) fun _ hpart => balanced_of_mem_segments h hpart,
    List.map_map]
  refine congrArg _ (List.map_congr_left fun segment hsegment => ?_)
  exact erased_quoteSegment fun hb => h (Text.mem_of_mem_pieces hsegment hb).1

/-- A quoted name has no markers, whatever its segments hold. -/
theorem markerCount_quoted (h : backquote ∉ name.toList) : markerCount (quoted name) = 0 := by
  have hmarker : '?' ∉ (erased (quoted name)).toList := by
    rw [erased_quoted h, String.toList_intercalate]
    intro hm
    rcases Text.of_mem_intercalate hm with hm | ⟨part, hpart, hm⟩
    · revert hm
      decide
    · obtain ⟨text, htext, rfl⟩ := List.mem_map.1 hpart
      obtain ⟨segment, -, rfl⟩ := List.mem_map.1 htext
      unfold erasedSegment at hm
      split at hm <;> revert hm <;> decide
  rw [markerCount_eq_count, List.count_eq_zero_of_not_mem hmarker]

end RowQuery.Sql
