import RowQuery.Proofs.Text.Like
import RowQuery.Proofs.Text.Pieces

/-!
# Patterns as regular expressions

A pattern with wildcards can be written as a regular expression (`Regex.ofPattern`): anchored at both
ends, with case ignored and with a point for every character, line breaks included, where the
pieces between the wildcards are escaped and the wildcards are `.*`. `Regex.read?` reads such an
expression as its items, and `Regex.Finds` says when they are found in a text, as regular expressions
are documented. What is found is what matches the pattern (`Regex.finds_ofPattern`).
-/

namespace RowQuery.Regex

open Text (SameLetters Cut)

/-! ## Expressions -/

/-- The characters that have a meaning of their own in an expression. -/
def metaChars : List Char :=
  ['\\', '.', '+', '*', '?', '(', ')', '|', '[', ']', '\x7b', '\x7d', '^', '$', '#', '&', '-', '~']

/-- A character as an expression that matches it. -/
def escape (c : Char) : List Char := if c ∈ metaChars then ['\\', c] else [c]

/-- The expression of a pattern. -/
def ofPattern (pattern : String) : List Char :=
  ['(', '?', 's', 'i', ')', '^'] ++
    (['.', '*'].intercalate ((Text.pieces (· == '%') pattern.toList).map (·.flatMap escape)) ++ ['$'])

/-- What an expression is made of. -/
inductive Item where
  /-- The start of the text. -/
  | start
  /-- The end of the text. -/
  | finish
  /-- A character, in any case. -/
  | literal (c : Char)
  /-- Any characters, or none. -/
  | run
deriving DecidableEq, Repr

/-- Reads the items of an expression, if they are of these four kinds. -/
def readItems? : List Char → Option (List Item)
  | [] => some []
  | '^' :: s => (readItems? s).map (.start :: ·)
  | '$' :: s => (readItems? s).map (.finish :: ·)
  | '.' :: '*' :: s => (readItems? s).map (.run :: ·)
  | '\\' :: c :: s => if c ∈ metaChars then (readItems? s).map (.literal c :: ·) else none
  | c :: s => if c ∈ metaChars then none else (readItems? s).map (.literal c :: ·)

/-- Reads an expression in which case is ignored and a point is any character. -/
def read? (s : List Char) : Option (List Item) :=
  (['(', '?', 's', 'i', ')'].isPrefixOf? s).bind readItems?

/-- The items match at a place of a text, between what is before it and the rest. -/
inductive Matches : List Item → List Char → List Char → Prop
  | done (before rest : List Char) : Matches [] before rest
  | start {items : List Item} {rest : List Char} (h : Matches items [] rest) :
    Matches (.start :: items) [] rest
  | finish {items : List Item} {before : List Char} (h : Matches items before []) :
    Matches (.finish :: items) before []
  | literal {c d : Char} {items : List Item} {before rest : List Char}
    (same : Text.sameIgnoringCase c d = true) (h : Matches items (before ++ [d]) rest) :
    Matches (.literal c :: items) before (d :: rest)
  | run {items : List Item} {before rest : List Char} (chars : List Char)
    (h : Matches items (before ++ chars) rest) : Matches (.run :: items) before (chars ++ rest)

/-- The items match at some place of the text. -/
def Finds (items : List Item) (text : String) : Prop :=
  ∃ before rest, text.toList = before ++ rest ∧ Matches items before rest

/-! ## Reading the expression of a pattern -/

/-- The items of the pieces between wildcards, and of what follows them. -/
def itemsOf : List (List Char) → List Item → List Item
  | [], items => items
  | [piece], items => piece.map .literal ++ items
  | piece :: pieces, items => piece.map .literal ++ .run :: itemsOf pieces items

/-- An escaped character is read as itself. -/
theorem readItems?_escape (c : Char) (s : List Char) :
    readItems? (escape c ++ s) = (readItems? s).map (.literal c :: ·) := by
  unfold escape
  split
  · next h =>
    have hread : readItems? ('\\' :: c :: s) = if c ∈ metaChars then
        (readItems? s).map (.literal c :: ·) else none := rfl
    rw [List.cons_append, List.singleton_append, hread, if_pos h]
  · next h =>
    have hmeta : ∀ d ∈ metaChars, c ≠ d := fun d hd heq => h (heq ▸ hd)
    rw [List.singleton_append, readItems?, if_neg h]
    · exact hmeta '^' (by decide)
    · exact hmeta '$' (by decide)
    · exact fun _ heq _ => hmeta '.' (by decide) heq
    · exact fun _ _ heq _ => hmeta '\\' (by decide) heq

/-- An escaped piece is read as its characters. -/
theorem readItems?_piece (piece s : List Char) :
    readItems? (piece.flatMap escape ++ s) = (readItems? s).map (piece.map .literal ++ ·) := by
  induction piece with
  | nil => simp
  | cons c piece ih =>
    rw [List.flatMap_cons, List.append_assoc, readItems?_escape, ih, Option.map_map]
    rfl

/-- Pieces joined as wildcards are read as their items. -/
theorem readItems?_pieces {pieces : List (List Char)} {s : List Char} {items : List Item}
    (hs : readItems? s = some items) :
    readItems? (['.', '*'].intercalate (pieces.map (·.flatMap escape)) ++ s) =
      some (itemsOf pieces items) := by
  induction pieces with
  | nil => exact hs
  | cons piece pieces ih =>
    cases pieces with
    | nil =>
      rw [List.map_singleton, List.intercalate_singleton, readItems?_piece, hs]
      rfl
    | cons next pieces =>
      have hrun (s : List Char) : readItems? (['.', '*'] ++ s) = (readItems? s).map (.run :: ·) := rfl
      rw [List.map_cons, List.map_cons, List.intercalate_cons_cons, List.append_assoc,
        List.append_assoc, readItems?_piece, hrun, ← List.map_cons, ih]
      rfl

/-- The expression of a pattern is read as its items between the ends of the text. -/
theorem read?_ofPattern (pattern : String) : read? (ofPattern pattern) =
    some (.start :: itemsOf (Text.pieces (· == '%') pattern.toList) [.finish]) := by
  have hread (s : List Char) : read? (['(', '?', 's', 'i', ')', '^'] ++ s) =
      (readItems? s).map (.start :: ·) := rfl
  have hfinish : readItems? ['$'] = some [.finish] := rfl
  rw [ofPattern, hread, readItems?_pieces hfinish]
  rfl

/-! ## Matching the expression of a pattern -/

variable {piece before rest : List Char} {pieces : List (List Char)} {items : List Item}

/-- Characters match a text that begins with the same ones. -/
theorem matches_literals : Matches (piece.map .literal ++ items) before rest ↔
    ∃ s behind, rest = s ++ behind ∧ SameLetters piece s ∧ Matches items (before ++ s) behind := by
  induction piece generalizing before rest with
  | nil =>
    constructor
    · exact fun h => ⟨[], rest, rfl, .nil, by rwa [List.append_nil]⟩
    · rintro ⟨s, behind, rfl, hsame, h⟩
      cases hsame
      rwa [List.append_nil] at h
  | cons c piece ih =>
    constructor
    · rintro (_ | _ | _ | ⟨same, h⟩)
      obtain ⟨s, behind, rfl, hsame, hrest⟩ := ih.1 h
      rw [List.append_assoc] at hrest
      exact ⟨_ :: s, behind, rfl, .cons same hsame, hrest⟩
    · rintro ⟨_, behind, rfl, hsame, h⟩
      cases hsame with
      | cons same hsame => exact .literal same (ih.2 ⟨_, behind, rfl, hsame, by simpa using h⟩)

/-- Any characters match before what matches behind them. -/
theorem matches_run : Matches (.run :: items) before rest ↔
    ∃ chars behind, rest = chars ++ behind ∧ Matches items (before ++ chars) behind := by
  constructor
  · rintro (_ | _ | _ | _ | ⟨chars, h⟩)
    exact ⟨chars, _, rfl, h⟩
  · rintro ⟨chars, behind, rfl, h⟩
    exact .run chars h

/-- The pieces up to the end of the text match a text that is cut into them. -/
theorem matches_pieces (hne : pieces ≠ []) :
    Matches (itemsOf pieces [.finish]) before rest ↔ Cut SameLetters pieces rest := by
  induction pieces generalizing before rest with
  | nil => exact absurd rfl hne
  | cons piece pieces ih =>
    cases pieces with
    | nil =>
      rw [itemsOf, matches_literals, Text.cut_singleton]
      constructor
      · rintro ⟨s, behind, rfl, hsame, h⟩
        cases h
        rwa [List.append_nil]
      · exact fun hsame => ⟨rest, [], (List.append_nil rest).symm, hsame, .finish (.done _ _)⟩
    | cons next pieces =>
      have hnext := List.cons_ne_nil next pieces
      rw [itemsOf, matches_literals, Text.cut_cons hnext]
      · constructor
        · rintro ⟨s, behind, rfl, hsame, h⟩
          obtain ⟨between, t, rfl, hrest⟩ := matches_run.1 h
          exact ⟨s, between, t, rfl, hsame, (ih hnext).1 hrest⟩
        · rintro ⟨s, between, t, rfl, hsame, h⟩
          exact ⟨s, _, rfl, hsame, matches_run.2 ⟨between, t, rfl, (ih hnext).2 h⟩⟩
      · exact hnext

/-- The expression of a pattern is found in the texts that match the pattern. -/
theorem finds_ofPattern (pattern text : String) : ∃ items, read? (ofPattern pattern) = some items ∧
    (Finds items text ↔ Text.like pattern text = true) := by
  refine ⟨_, read?_ofPattern pattern, ?_⟩
  have hmatches :
      Matches (itemsOf (Text.pieces (· == '%') pattern.toList) [.finish]) [] text.toList ↔
        Cut SameLetters (Text.pieces (· == '%') pattern.toList) text.toList :=
    matches_pieces (Text.pieces_ne_nil _ _)
  rw [Text.like_iff_cut, ← hmatches]
  constructor
  · rintro ⟨before, rest, htext, h⟩
    cases h with
    | start h => rwa [htext]
  · exact fun h => ⟨[], text.toList, rfl, .start h⟩

end RowQuery.Regex
