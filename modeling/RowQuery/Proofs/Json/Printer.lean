import RowQuery.Proofs.Json.Exact
import RowQuery.Proofs.Json.Written
import RowQuery.Proofs.Text.Pieces

/-!
# Values are written as JSON

A value is written, on one line or over several, as a text that denotes it (`Json.denotes_compact`,
`Json.denotes_indented`), however deep it is nested. A text denotes at most one value
(`Json.Denotes.unique`), so what is written tells values apart. On one line there is no line break,
whatever the texts in the value hold (`Json.not_mem_compact`).
-/

namespace RowQuery.Json

open Grammar

/-! ## What a text denotes -/

/-- A text denotes at most one value. -/
theorem Denotes.unique {text : String} {v w : Json} (hv : Denotes text v) (hw : Denotes text w) :
    v = w := by
  -- the reader, with room for the deeper of the two, reads both
  have hread {u : Json} (hu : Denotes text u) (hroom : u.nesting ≤ max v.nesting w.nesting) :
      ∃ d, (Document.readValue (2 * text.length + 2) (max v.nesting w.nesting) text.toList).1 = d ∧
        d.strict = .ok u := by
    obtain ⟨s, t, blank, hvalue, behind⟩ := hu
    have hlength := blank.length_le
    obtain ⟨d, hread, hd⟩ := Document.readValue_of_value (2 * text.length + 2) _ blank hvalue
      (behind.follows fun _ hc => nomatch hc) hroom
      (by rw [String.length_toList] at hlength; omega)
    exact ⟨d, congrArg Prod.fst hread, hd⟩
  obtain ⟨d, rfl, hd⟩ := hread hv (Nat.le_max_left _ _)
  obtain ⟨d', rfl, hd'⟩ := hread hw (Nat.le_max_right _ _)
  exact Except.ok.inj (hd.symm.trans hd')

/-! ## Lists of the grammar -/

namespace Grammar

/-- A field of an object: its key, a colon, and its value. -/
def Field (s : List Char) (field : String × Json) (t : List Char) : Prop :=
  ∃ s₁ s₂ s₃, Quoted s field.1 s₁ ∧ Blank s₁ (':' :: s₂) ∧ Blank s₂ s₃ ∧ Value s₃ field.2 t

/-- The text writes something of the grammar, whatever stands behind it. -/
def Writes {α : Type} (Element : List Char → α → List Char → Prop) (text : String) (a : α) : Prop :=
  ∀ t, Element (text.toList ++ t) a t

/-- A text of white space alone. -/
def Spaces (text : String) : Prop := ∀ c ∈ text.toList, c ∈ [' ', '\t', '\n', '\r']

/-- No white space is white space. -/
theorem spaces_empty : Spaces "" := by simp [Spaces]

/-- A blank is white space. -/
theorem spaces_blank : Spaces " " := by simp [Spaces]

/-- A line break is white space. -/
theorem spaces_break : Spaces "\n" := by simp [Spaces]

/-- White space behind white space. -/
theorem Spaces.append {s t : String} (hs : Spaces s) (ht : Spaces t) : Spaces (s ++ t) := by
  rw [Spaces, String.toList_append, List.forall_mem_append]
  exact ⟨hs, ht⟩

/-- The margin of a line is white space. -/
theorem spaces_margin (level : Nat) : Spaces (margin level) := by
  intro c hc
  rw [margin, String.toList_ofList] at hc
  rw [List.eq_of_mem_replicate hc]
  decide

/-- White space is passed over. -/
theorem Spaces.blank {text : String} (h : Spaces text) (t : List Char) :
    Blank (text.toList ++ t) t := by
  unfold Spaces at h
  generalize text.toList = spaces at h
  induction spaces with
  | nil => exact .none t
  | cons c spaces ih =>
    rw [List.forall_mem_cons] at h
    exact .cons h.1 (ih h.2)

section

variable {α : Type} (Element : List Char → α → List Char → Prop)
  (Elements : List Char → List α → List Char → Prop) {closing : Char} {gap lead tail : String}
  {texts : List String} {l : List α}

/-- Elements that are written one by one, with commas between them and white space around them, are
a list up to its closing character. Its grammar is given by two rules, for its last element and for
any other. -/
theorem list_of_joined
    (last : ∀ {s s' t a}, Element s a s' → Blank s' (closing :: t) → Elements s [a] t)
    (cons : ∀ {s s' u u' t a l}, Element s a s' → Blank s' (',' :: u) → Blank u u' →
      Elements u' l t → Elements s (a :: l) t)
    (hgap : Spaces gap) (hlead : Spaces lead) (htail : Spaces tail)
    (h : List.Forall₂ (Writes Element) texts l) (hne : l ≠ []) (t : List Char) :
    ∃ s, Blank ((("," ++ gap).intercalate (texts.map (lead ++ ·)) ++ tail).toList ++ closing :: t) s ∧
      Elements s l t := by
  induction h with
  | nil => exact absurd rfl hne
  | @cons text a texts l htext hrest ih =>
    cases hrest with
    | nil =>
      refine ⟨text.toList ++ (tail.toList ++ closing :: t), ?_, last (htext _) (htail.blank _)⟩
      simpa [String.toList_append] using hlead.blank (text.toList ++ (tail.toList ++ closing :: t))
    | @cons next b others l _ _ =>
      obtain ⟨s, hblank, helements⟩ := ih (List.cons_ne_nil _ _)
      refine ⟨_, ?_, cons (htext _) (.none _) ((hgap.blank _).trans hblank) helements⟩
      rw [List.map_cons, List.map_cons, String.intercalate_cons_cons]
      simpa [String.toList_append] using hlead.blank _

end

end Grammar

/-! ## Values of the grammar -/

/-- Null is written as its word. -/
theorem writes_null : Writes Value "null" .null := fun t => .null t

/-- A number is written as itself. -/
theorem writes_number (n : Json.Number) : Writes Value n.text (.number n) := by
  intro t
  obtain ⟨numeral, htext, htoken⟩ := n.writtenAs_text
  rw [← htext]
  exact .number numeral htoken t

/-- A Boolean is written as its word. -/
theorem writes_bool (b : Bool) : Writes Value (if b then "true" else "false") (.bool b) := by
  intro t
  cases b <;> constructor

/-- A key with its value behind a colon and white space is a field. -/
theorem writes_field {text spaces : String} {v : Json} (hspaces : Spaces spaces)
    (h : Writes Value text v) (key : String) :
    Writes Field (quote key ++ (":" ++ spaces) ++ text) (key, v) := by
  intro t
  refine ⟨_, _, _, ?_, .none _, hspaces.blank _, h t⟩
  have htext : (quote key ++ (":" ++ spaces) ++ text).toList ++ t =
      (quote key).toList ++ (':' :: (spaces.toList ++ (text.toList ++ t))) := by
    simp [String.toList_append]
  rw [htext]
  exact quoted_quote key _

section

variable {before gap lead tail : String} {texts : List String} {items : List Json}
  {fields : List (String × Json)}

/-- Items with commas between them and white space around them are an array. -/
theorem writes_array (hbefore : Spaces before) (hgap : Spaces gap) (hlead : Spaces lead)
    (htail : Spaces tail) (h : List.Forall₂ (Writes Value) texts items) (hne : items ≠ []) :
    Writes Value
      ("[" ++ before ++ (("," ++ gap).intercalate (texts.map (lead ++ ·)) ++ tail) ++ "]")
      (.array items) := by
  intro t
  obtain ⟨s, hblank, hitems⟩ := list_of_joined Value Items .last .cons hgap hlead htail h hne t
  have hvalue := Value.array ((hbefore.blank _).trans hblank) hitems
  simpa [String.toList_append] using hvalue

/-- Fields with commas between them and white space around them are an object. -/
theorem writes_object (hbefore : Spaces before) (hgap : Spaces gap) (hlead : Spaces lead)
    (htail : Spaces tail) (h : List.Forall₂ (Writes Field) texts fields) (hne : fields ≠ []) :
    Writes Value
      ("\x7b" ++ before ++ (("," ++ gap).intercalate (texts.map (lead ++ ·)) ++ tail) ++ "\x7d")
      (.object fields) := by
  intro t
  have last {s s' t : List Char} {field : String × Json} (hfield : Field s field s')
      (close : Blank s' ('\x7d' :: t)) : Fields s [field] t := by
    obtain ⟨_, _, _, hkey, colon, blank, hv⟩ := hfield
    exact .last hkey colon blank hv close
  have cons {s s' u u' t : List Char} {field : String × Json} {fields : List (String × Json)}
      (hfield : Field s field s') (comma : Blank s' (',' :: u)) (blank' : Blank u u')
      (rest : Fields u' fields t) : Fields s (field :: fields) t := by
    obtain ⟨_, _, _, hkey, colon, blank, hv⟩ := hfield
    exact .cons hkey colon blank hv comma blank' rest
  obtain ⟨s, hblank, hfields⟩ := list_of_joined Field Fields last cons hgap hlead htail h hne t
  have hvalue := Value.object ((hbefore.blank _).trans hblank) hfields
  simpa [String.toList_append] using hvalue

/-- An array without items is written as its brackets. -/
theorem writes_emptyArray : Writes Value "[]" (.array []) := fun _ => .emptyArray (.none _)

/-- An object without fields is written as its braces. -/
theorem writes_emptyObject : Writes Value "\x7b\x7d" (.object []) := fun _ => .emptyObject (.none _)

end

/-! ### On one line -/

mutual

/-- A value is written on one line. -/
theorem writes_compact : ∀ v : Json, Writes Value v.compact v
  | .null => writes_null
  | .bool b => writes_bool b
  | .number n => writes_number n
  | .text s => fun t => .text (quoted_quote s t)
  | .array [] => writes_emptyArray
  | .array (v :: items) => by
    simpa [compact] using writes_array spaces_empty spaces_empty spaces_empty spaces_empty
      (writes_compactItems (v :: items)) (List.cons_ne_nil _ _)
  | .object [] => writes_emptyObject
  | .object (field :: fields) => by
    simpa [compact] using writes_object spaces_empty spaces_empty spaces_empty spaces_empty
      (writes_compactFields (field :: fields)) (List.cons_ne_nil _ _)

/-- The items of an array are written on one line. -/
theorem writes_compactItems : ∀ items : List Json,
    List.Forall₂ (Writes Value) (compactItems items) items
  | [] => .nil
  | v :: rest => .cons (writes_compact v) (writes_compactItems rest)

/-- The fields of an object are written on one line. -/
theorem writes_compactFields : ∀ fields : List (String × Json),
    List.Forall₂ (Writes Field) (compactFields fields) fields
  | [] => .nil
  | (key, v) :: rest =>
    .cons (writes_field spaces_empty (writes_compact v) key) (writes_compactFields rest)

end

/-! ### Over several lines -/

/-- A block that is not empty is its brackets around its lines. -/
theorem block_cons (opening closing : String) (level : Nat) (line : String) (lines : List String) :
    block opening closing level (line :: lines) = opening ++ "\n" ++
      (("," ++ "\n").intercalate ((line :: lines).map (margin (level + 1) ++ ·)) ++
        ("\n" ++ margin level)) ++ closing := by
  have hseparator : "," ++ "\n" = ",\n" := rfl
  rw [block, List.isEmpty_cons, hseparator]
  simp only [String.append_assoc]
  rfl

mutual

/-- A value is written over several lines. -/
theorem writes_indentedAt : ∀ (level : Nat) (v : Json), Writes Value (v.indentedAt level) v
  | _, .null => writes_null
  | _, .bool b => writes_bool b
  | _, .number n => writes_number n
  | _, .text s => fun t => .text (quoted_quote s t)
  | _, .array [] => writes_emptyArray
  | level, .array (v :: items) => by
    have hitems := writes_indentedItems (level + 1) (v :: items)
    have hclosing := spaces_break.append (spaces_margin level)
    rw [indentedAt, indentedItems, block_cons]
    exact writes_array spaces_break spaces_break (spaces_margin _) hclosing hitems
      (List.cons_ne_nil _ _)
  | _, .object [] => writes_emptyObject
  | level, .object ((key, v) :: fields) => by
    have hfields := writes_indentedFields (level + 1) ((key, v) :: fields)
    have hclosing := spaces_break.append (spaces_margin level)
    rw [indentedAt, indentedFields, block_cons]
    exact writes_object spaces_break spaces_break (spaces_margin _) hclosing hfields
      (List.cons_ne_nil _ _)

/-- The items of an array are written each on lines of its own. -/
theorem writes_indentedItems : ∀ (level : Nat) (items : List Json),
    List.Forall₂ (Writes Value) (indentedItems level items) items
  | _, [] => .nil
  | level, v :: rest => .cons (writes_indentedAt level v) (writes_indentedItems level rest)

/-- The fields of an object are written each on lines of its own. -/
theorem writes_indentedFields : ∀ (level : Nat) (fields : List (String × Json)),
    List.Forall₂ (Writes Field) (indentedFields level fields) fields
  | _, [] => .nil
  | level, (key, v) :: rest => .cons
    (writes_field spaces_blank (writes_indentedAt level v) key) (writes_indentedFields level rest)

end

/-! ## Texts of values -/

/-- What writes a value denotes it, also in front of white space. -/
theorem denotes_of_writes {text spaces : String} {v : Json} (h : Writes Value text v)
    (hspaces : Spaces spaces) : Denotes (text ++ spaces) v := by
  refine ⟨text.toList ++ spaces.toList, spaces.toList, ?_, h _, ?_⟩
  · rw [String.toList_append]
    exact .none _
  · simpa using hspaces.blank []

/-- What is written for a value on one line denotes it. -/
theorem denotes_compact (v : Json) : Denotes v.compact v := by
  simpa using denotes_of_writes (writes_compact v) spaces_empty

/-- What is written for a value over several lines denotes it, also in front of white space. -/
theorem denotes_indented (v : Json) {spaces : String} (h : Spaces spaces) :
    Denotes (v.indented ++ spaces) v := denotes_of_writes (writes_indentedAt 0 v) h

/-- Values that are written alike on one line are one value. -/
theorem eq_of_compact_eq {v w : Json} (h : v.compact = w.compact) : v = w :=
  (denotes_compact v).unique (h ▸ denotes_compact w)

/-- Values that are written alike over several lines are one value. -/
theorem eq_of_indented_eq {v w : Json} (h : v.indented = w.indented) : v = w :=
  (denotes_indented v spaces_empty).unique (h ▸ denotes_indented w spaces_empty)

/-! ## Line breaks -/

/-- No character of a number is a line break. -/
theorem Grammar.Numeral.not_mem_text (n : Numeral) : '\n' ∉ n.text := by
  have hdigits {s : List Char} (h : Digits s) : '\n' ∉ s := fun hbreak => nomatch h.2 _ hbreak
  have hfraction : '\n' ∉ n.fraction := by
    unfold fraction
    cases hplaces : n.places? with
    | none => exact List.not_mem_nil
    | some places => simp [hdigits (n.places_digits places hplaces)]
  have hexponent : '\n' ∉ (n.exponent?.map Exponent.text).getD [] := by
    cases n.exponent? with
    | none => exact List.not_mem_nil
    | some e =>
      have hmark : '\n' ≠ e.mark := fun h => absurd (h ▸ e.mark_mem) (by decide)
      have hsign : '\n' ∉ e.sign := by
        have hsigns : ∀ sign ∈ [[], ['+'], ['-']], '\n' ∉ sign := by decide
        exact hsigns _ e.sign_mem
      simp [Exponent.text, hmark, hsign, hdigits e.digits_digits]
  have hsign : '\n' ∉ if n.negative then ['-'] else [] := by
    cases n.negative <;> decide
  simp only [text, List.mem_append, not_or]
  exact ⟨hsign, hdigits n.whole_digits, hfraction, hexponent⟩

/-- No character is written with a line break in a string. -/
theorem not_mem_escape (c : Char) : '\n' ∉ escape c := by
  have hdigit : ∀ n < 0x20, '\n' ≠ Nat.digitChar n := by decide
  unfold escape
  iterate 7
    split
    · decide
  split
  · next h =>
    simp [controlDigits, hdigit (c.toNat / 16) (by omega), hdigit (c.toNat % 16) (by omega)]
  · next _ _ hbreak _ _ _ _ _ => exact List.mem_singleton.not.2 (Ne.symm hbreak)

/-- A string is written without line breaks. -/
theorem not_mem_quote (s : String) : '\n' ∉ (quote s).toList := by
  simp [quote, not_mem_escape]

mutual

/-- A value is written without line breaks on one line. -/
theorem not_mem_compact : ∀ v : Json, '\n' ∉ v.compact.toList
  | .null => by decide
  | .bool b => by cases b <;> decide
  | .number n => by
    obtain ⟨numeral, htext, -⟩ := n.writtenAs_text
    rw [compact, ← htext]
    exact numeral.not_mem_text
  | .text s => not_mem_quote s
  | .array items => by
    have hcomma : '\n' ∉ ",".toList := by decide
    have hitems := Text.not_mem_joined hcomma (not_mem_compactItems items)
    simp only [compact, String.toList_append, List.mem_append, not_or]
    exact ⟨⟨by decide, hitems⟩, by decide⟩
  | .object fields => by
    have hcomma : '\n' ∉ ",".toList := by decide
    have hfields := Text.not_mem_joined hcomma (not_mem_compactFields fields)
    simp only [compact, String.toList_append, List.mem_append, not_or]
    exact ⟨⟨by decide, hfields⟩, by decide⟩

/-- Items are written without line breaks on one line. -/
theorem not_mem_compactItems : ∀ items : List Json,
    ∀ text ∈ compactItems items, '\n' ∉ text.toList
  | [] => fun _ h => nomatch h
  | v :: rest => List.forall_mem_cons.2 ⟨not_mem_compact v, not_mem_compactItems rest⟩

/-- Fields are written without line breaks on one line. -/
theorem not_mem_compactFields : ∀ fields : List (String × Json),
    ∀ text ∈ compactFields fields, '\n' ∉ text.toList
  | [] => fun _ h => nomatch h
  | (key, v) :: rest => List.forall_mem_cons.2
    ⟨by simp [not_mem_quote, not_mem_compact v], not_mem_compactFields rest⟩

end

end RowQuery.Json
