import RowQuery.Text.Pieces

/-!
# Cutting and joining

Cutting is the inverse of joining: the pieces of a list between the occurrences of an element,
joined by that element, are the list again (`intercalate_pieces`), and parts that do not hold a
separator are the pieces of what they are joined to by separators (`pieces_intercalate`), or of what
they are when each ends with one (`pieces_lines`). What stands before the last separator of a list is
told apart from what stands behind it (`eq_of_last_separator`).
-/

namespace RowQuery.Text

variable {α : Type} {p : α → Bool}

/-- The pieces are those of the core library. -/
theorem pieces_eq_splitOnP (p : α → Bool) (l : List α) : pieces p l = l.splitOnP p := by
  induction l with
  | nil => rfl
  | cons a l ih =>
    rw [pieces, List.splitOnP_cons_eq_if_modifyHead, ← ih]
    split
    · rfl
    · cases hl : pieces p l with
      | nil => exact absurd (ih ▸ hl) (List.splitOnP_ne_nil p l)
      | cons first rest => rfl

/-- A list without separators is one piece. -/
theorem pieces_eq_singleton {l : List α} (h : ∀ a ∈ l, p a = false) : pieces p l = [l] := by
  rw [pieces_eq_splitOnP, List.splitOnP_eq_singleton h]

/-- There is always a piece. -/
theorem pieces_ne_nil (p : α → Bool) (l : List α) : pieces p l ≠ [] := by
  rw [pieces_eq_splitOnP]
  exact List.splitOnP_ne_nil p l

/-- A piece holds elements of the list, and no separator. -/
theorem mem_of_mem_pieces {l piece : List α} (h : piece ∈ pieces p l) {a : α} (ha : a ∈ piece) :
    a ∈ l ∧ p a = false := by
  induction l generalizing piece with
  | nil =>
    rw [List.mem_singleton.1 h] at ha
    cases ha
  | cons b l ih =>
    rw [pieces] at h
    by_cases hb : p b
    · rw [if_pos hb] at h
      rcases List.mem_cons.1 h with rfl | h
      · cases ha
      · exact ⟨List.mem_cons_of_mem _ (ih h ha).1, (ih h ha).2⟩
    · cases hl : pieces p l with
      | nil => exact absurd hl (pieces_ne_nil p l)
      | cons first rest =>
        rw [if_neg hb, hl] at h
        rcases List.mem_cons.1 h with rfl | h
        · rcases List.mem_cons.1 ha with rfl | ha
          · exact ⟨List.mem_cons_self, by simpa using hb⟩
          · have hfirst := ih (hl ▸ List.mem_cons_self) ha
            exact ⟨List.mem_cons_of_mem _ hfirst.1, hfirst.2⟩
        · have hrest := ih (hl ▸ List.mem_cons_of_mem _ h) ha
          exact ⟨List.mem_cons_of_mem _ hrest.1, hrest.2⟩

/-- Parts without separators are the pieces of what separators join them to. -/
theorem pieces_intercalate {sep : α} (hsep : p sep = true) {parts : List (List α)}
    (h : ∀ part ∈ parts, ∀ a ∈ part, p a = false) (hne : parts ≠ []) :
    pieces p ([sep].intercalate parts) = parts := by
  induction parts with
  | nil => exact absurd rfl hne
  | cons part parts ih =>
    cases parts with
    | nil => simpa using pieces_eq_singleton (h part List.mem_cons_self)
    | cons next rest =>
      have hrest := ih (fun q hq => h q (List.mem_cons_of_mem _ hq)) (List.cons_ne_nil _ _)
      have hpart := h part List.mem_cons_self
      rw [pieces_eq_splitOnP] at hrest ⊢
      rw [List.intercalate_cons_cons, List.append_assoc, List.singleton_append,
        List.splitOnP_append_cons_of_forall_mem hpart sep hsep, hrest]

/-- The pieces between the occurrences of an element, joined by it, are the list again. -/
theorem intercalate_pieces [BEq α] [LawfulBEq α] (a : α) (l : List α) :
    [a].intercalate (pieces (· == a) l) = l := by
  rw [pieces_eq_splitOnP, ← List.splitOn_eq_splitOnP, List.intercalate_splitOn]

/-- A function of the elements goes through joining. -/
theorem map_intercalate {β : Type} (f : α → β) (sep : List α) (parts : List (List α)) :
    (sep.intercalate parts).map f = (sep.map f).intercalate (parts.map (List.map f)) := by
  induction parts with
  | nil => rfl
  | cons part parts ih =>
    cases parts with
    | nil => simp
    | cons next rest =>
      rw [List.intercalate_cons_cons, List.map_append, List.map_append, ih]
      exact List.intercalate_cons_cons.symm

/-- What is joined is made of parts and separators. -/
theorem of_mem_intercalate {sep : List α} {parts : List (List α)} {a : α}
    (h : a ∈ sep.intercalate parts) : a ∈ sep ∨ ∃ part ∈ parts, a ∈ part := by
  induction parts with
  | nil => cases h
  | cons part parts ih =>
    cases parts with
    | nil =>
      rw [List.intercalate_singleton] at h
      exact .inr ⟨part, List.mem_cons_self, h⟩
    | cons next rest =>
      rw [List.intercalate_cons_cons, List.mem_append, List.mem_append] at h
      rcases h with (h | h) | h
      · exact .inr ⟨part, List.mem_cons_self, h⟩
      · exact .inl h
      · rcases ih h with h | ⟨other, hother, h⟩
        · exact .inl h
        · exact .inr ⟨other, List.mem_cons_of_mem _ hother, h⟩

/-- A character that neither the separator nor the texts hold is not in what is joined. -/
theorem not_mem_joined {c : Char} {separator : String} {texts : List String}
    (hs : c ∉ separator.toList) (h : ∀ text ∈ texts, c ∉ text.toList) :
    c ∉ (separator.intercalate texts).toList := by
  intro hc
  rw [String.toList_intercalate] at hc
  rcases of_mem_intercalate hc with hc | ⟨part, hpart, hc⟩
  · exact hs hc
  · obtain ⟨text, htext, rfl⟩ := List.mem_map.1 hpart
    exact h text htext hc

/-- What holds of the elements of separators and parts holds of what is joined. -/
theorem forall_mem_intercalate {P : α → Prop} {sep : List α} {parts : List (List α)}
    (hsep : ∀ a ∈ sep, P a) (h : ∀ part ∈ parts, ∀ a ∈ part, P a) :
    ∀ a ∈ sep.intercalate parts, P a := by
  intro a ha
  rcases of_mem_intercalate ha with ha | ⟨part, hpart, ha⟩
  · exact hsep a ha
  · exact h part hpart a ha

/-! ## Lines -/

/-- Lines without separators, each with one behind it, are the pieces of their text, and behind the
last separator there is an empty one. -/
theorem pieces_lines {sep : α} (hsep : p sep = true) {lines : List (List α)}
    (h : ∀ line ∈ lines, ∀ a ∈ line, p a = false) :
    pieces p (lines.flatMap (· ++ [sep])) = lines ++ [[]] := by
  induction lines with
  | nil => rfl
  | cons line lines ih =>
    rw [List.forall_mem_cons] at h
    have hlines := ih h.2
    rw [pieces_eq_splitOnP] at hlines ⊢
    rw [List.flatMap_cons, List.append_assoc, List.singleton_append,
      List.splitOnP_append_cons_of_forall_mem h.1 sep hsep, hlines, List.cons_append]

/-- Two lists with a property, before lists that begin without it, are told apart from them. -/
theorem append_inj_of_head {p : α → Prop} [DecidablePred p] {l l' m m' : List α}
    (hl : ∀ a ∈ l, p a) (hl' : ∀ a ∈ l', p a) (hm : ∀ a ∈ m.head?, ¬ p a)
    (hm' : ∀ a ∈ m'.head?, ¬ p a) (h : l ++ m = l' ++ m') : l = l' ∧ m = m' := by
  have htake {l m : List α} (hl : ∀ a ∈ l, p a) (hm : ∀ a ∈ m.head?, ¬ p a) :
      (l ++ m).takeWhile p = l := by
    rw [List.takeWhile_append_of_pos fun a ha => decide_eq_true (hl a ha)]
    cases m with
    | nil => simp
    | cons a m => simp [hm a rfl]
  have hl := htake hl hm
  rw [h, htake hl' hm'] at hl
  subst hl
  exact ⟨rfl, List.append_cancel_left h⟩

/-- A text is cut at its last separator in one way. -/
theorem eq_of_last_separator [DecidableEq α] {sep : α} {l l' line line' : List α}
    (hline : sep ∉ line) (hline' : sep ∉ line') (h : l ++ sep :: line = l' ++ sep :: line') :
    l = l' ∧ line = line' := by
  have hreverse := congrArg List.reverse h
  simp only [List.reverse_append, List.reverse_cons, List.append_assoc, List.singleton_append]
    at hreverse
  have hother {line : List α} (h : sep ∉ line) : ∀ a ∈ line.reverse, a ≠ sep := fun a ha heq =>
    h (heq ▸ List.mem_reverse.1 ha)
  have hhead {before : List α} : ∀ a ∈ (sep :: before).head?, ¬ a ≠ sep := by
    rintro a ⟨⟩
    exact fun hne => hne rfl
  obtain ⟨hlast, hbefore⟩ := append_inj_of_head (p := (· ≠ sep)) (hother hline) (hother hline')
    hhead hhead hreverse
  exact ⟨List.reverse_inj.1 (List.cons.inj hbefore).2, List.reverse_inj.1 hlast⟩

end RowQuery.Text
