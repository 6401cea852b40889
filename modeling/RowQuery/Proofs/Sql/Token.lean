import RowQuery.Condition.Fragment
import RowQuery.Proofs.Sql.Identifier
import Mathlib.Data.List.Forall2

/-!
# Tokens of SQL

A text is read as tokens from left to right: a quoted segment of a name between backquotes, whatever
it holds; a word of letters or of comparison signs; a single sign. `Sql.bind` then puts a value in
the place of every marker, from left to right, and fails unless there are as many values as markers.

`Sql.Spells` says of a text and the values of its markers which tokens they are, whatever follows
them, so it passes from the parts of a text to the whole (`Spells.append`, `Spells.intercalate`).
-/

namespace RowQuery.Sql

/-! ## Reading tokens -/

/-- A token of a text. -/
inductive Token where
  /-- A segment of a name, without the backquotes around it. -/
  | segment (name : List Char)
  /-- A run of letters, or of comparison signs. -/
  | word (run : List Char)
  | star
  | dot
  | comma
  | opening
  | closing
  /-- A marker to which no value is bound. -/
  | marker
  /-- A value in the place of a marker. -/
  | value (v : Scalar)
  /-- A character that begins no token. -/
  | stray (c : Char)
deriving DecidableEq, Repr

/-- What has been read of a token that is not complete, the last character first. -/
inductive Pending where
  | nothing
  | segment (read : List Char)
  | word (read : List Char)

/-- A character that comparison operators are made of. -/
def isSign (c : Char) : Bool := c = '=' ∨ c = '!' ∨ c = '<' ∨ c = '>'

/-- The token that one character is. -/
def Token.single : Char → Token
  | '*' => .star
  | '.' => .dot
  | ',' => .comma
  | '(' => .opening
  | ')' => .closing
  | '?' => .marker
  | c => .stray c

/-- The tokens that a character completes at the beginning of a token, and what it leaves
pending. -/
def start (c : Char) : List Token × Pending :=
  if c = backquote then ([], .segment [])
  else if c.isAlpha || isSign c then ([], .word [c])
  else if Text.isBlank c then ([], .nothing)
  else ([.single c], .nothing)

/-- Whether a character continues a word. -/
def continues (read : List Char) (c : Char) : Bool :=
  read.any fun d => (c.isAlpha && d.isAlpha) || (isSign c && isSign d)

/-- The tokens of a text behind what is pending. -/
def tokens : Pending → List Char → List Token
  | .nothing, [] => []
  | .word read, [] => [.word read.reverse]
  | .segment _, [] => [.stray backquote]
  | .nothing, c :: s => (start c).1 ++ tokens (start c).2 s
  | .word read, c :: s =>
    if continues read c then tokens (.word (c :: read)) s
    else .word read.reverse :: ((start c).1 ++ tokens (start c).2 s)
  | .segment read, c :: s =>
    if c = backquote then .segment read.reverse :: tokens .nothing s
    else tokens (.segment (c :: read)) s

/-- The tokens with a value in the place of every marker, if there are as many. -/
def bind : List Token → List Scalar → Option (List Token)
  | [], [] => some []
  | [], _ :: _ => none
  | .marker :: _, [] => none
  | .marker :: ts, v :: values => (bind ts values).map (.value v :: ·)
  | t :: ts, values => (bind ts values).map (t :: ·)

/-- The tokens of a text with the values of its markers. -/
def boundTokens (sql : String) (values : List Scalar) : Option (List Token) :=
  bind (tokens .nothing sql.toList) values

/-! ## Texts that spell tokens -/

/-- Behind a token that is no marker nothing is bound. -/
theorem bind_append {ts : List Token} (h : Token.marker ∉ ts) (rest : List Token)
    (values : List Scalar) : bind (ts ++ rest) values = (bind rest values).map (ts ++ ·) := by
  induction ts with
  | nil => simp
  | cons t ts ih =>
    rw [List.mem_cons, not_or] at h
    have hbind : bind (t :: (ts ++ rest)) values = (bind (ts ++ rest) values).map (t :: ·) := by
      cases t <;> first | exact absurd rfl h.1 | (cases values <;> rfl)
    rw [List.cons_append, hbind, ih h.2, Option.map_map]
    rfl

/-- The text with these values is read as these tokens, and what follows it as it is by itself. -/
def Spells (s : String) (values : List Scalar) (ts : List Token) : Prop :=
  ∀ rest more, bind (tokens .nothing (s.toList ++ rest)) (values ++ more) =
    (bind (tokens .nothing rest) more).map (ts ++ ·)

namespace Spells

/-- A text without markers spells the tokens it is read as. -/
theorem of_tokens {s : String} {ts : List Token} (hs : Token.marker ∉ ts)
    (h : ∀ rest, tokens .nothing (s.toList ++ rest) = ts ++ tokens .nothing rest) :
    Spells s [] ts := by
  intro rest more
  rw [h, List.nil_append, bind_append hs]

/-- No text spells no tokens. -/
theorem empty : Spells "" [] [] := of_tokens (by simp) fun _ => rfl

/-- A marker spells its value. -/
theorem marker (v : Scalar) : Spells "?" [v] [.value v] := fun _ _ => rfl

/-- One text behind another spells the tokens of both. -/
theorem append {s t : String} {vs ws : List Scalar} {ts us : List Token} (hs : Spells s vs ts)
    (ht : Spells t ws us) : Spells (s ++ t) (vs ++ ws) (ts ++ us) := by
  intro rest more
  rw [String.toList_append, List.append_assoc, List.append_assoc, hs, ht, Option.map_map]
  congr 1
  funext us'
  exact (List.append_assoc ts us us').symm

/-- Texts joined by a separator without values spell their tokens joined by those of the
separator. -/
theorem intercalate {σ τ : Type} {sep : String} {seps : List Token} (hsep : Spells sep [] seps)
    {text : σ → String} {values : σ → List Scalar} {spelling : τ → List Token} {items : List σ}
    {others : List τ}
    (h : List.Forall₂ (fun i j => Spells (text i) (values i) (spelling j)) items others) :
    Spells (sep.intercalate (items.map text)) (items.flatMap values)
      (seps.intercalate (others.map spelling)) := by
  induction h with
  | nil => exact empty
  | @cons i j items others hi hrest ih =>
    cases hrest with
    | nil => simpa using hi
    | cons hi' hrest =>
      rw [List.map_cons, List.map_cons, List.map_cons, List.map_cons,
        String.intercalate_cons_cons, List.intercalate_cons_cons, List.flatMap_cons]
      have hboth := (hi.append hsep).append ih
      rwa [List.append_nil] at hboth

/-- The tokens of a whole text. -/
theorem boundTokens {s : String} {values : List Scalar} {ts : List Token}
    (h : Spells s values ts) : Sql.boundTokens s values = some ts := by
  have hs := h [] []
  rw [List.append_nil, List.append_nil] at hs
  rw [Sql.boundTokens, hs]
  show some (ts ++ []) = some ts
  rw [List.append_nil]

end Spells

/-! ## Names -/

/-- Within backquotes everything up to the next backquote is one segment. -/
theorem tokens_segment {segment : List Char} (h : backquote ∉ segment) (read rest : List Char) :
    tokens (.segment read) (segment ++ backquote :: rest) =
      .segment (read.reverse ++ segment) :: tokens .nothing rest := by
  induction segment generalizing read with
  | nil => simp [tokens]
  | cons c segment ih =>
    rw [List.mem_cons, not_or] at h
    rw [List.cons_append, tokens, if_neg (Ne.symm h.1), ih h.2]
    simp

/-- The token of a segment of a name. -/
def segmentToken (segment : List Char) : Token :=
  if segment = ['*'] then .star else .segment segment

/-- The tokens of a name. -/
def nameTokens (name : String) : List Token :=
  [.dot].intercalate ((Text.pieces (· == '.') name.toList).map fun s => [segmentToken s])

/-- A segment as it is written spells its token. -/
theorem Spells.quoteSegment {segment : List Char} (h : backquote ∉ segment) :
    Spells (String.ofList (quoteSegment segment)) [] [segmentToken segment] := by
  unfold Sql.quoteSegment segmentToken
  split
  · next hs =>
    subst hs
    exact of_tokens (by decide) fun _ => rfl
  · refine of_tokens (by simp) fun rest => ?_
    rw [String.toList_ofList, List.cons_append, List.append_assoc]
    exact tokens_segment h [] rest

/-- A quoted name spells its tokens, whatever characters its segments hold. -/
theorem Spells.quoted {name : String} (h : backquote ∉ name.toList) :
    Spells (quoted name) [] (nameTokens name) := by
  have hdot : Spells "." [] [.dot] := of_tokens (by decide) fun _ => rfl
  have hpieces : List.Forall₂ (fun s s' => Spells (String.ofList (Sql.quoteSegment s)) []
      [segmentToken s']) (Text.pieces (· == '.') name.toList)
      (Text.pieces (· == '.') name.toList) :=
    List.forall₂_same.2 fun s hs => quoteSegment fun hb => h (Text.mem_of_mem_pieces hs hb).1
  have hname := hdot.intercalate hpieces
  rwa [List.flatMap_eq_nil_iff.2 fun _ _ => rfl] at hname

/-! ## Comparisons and conjunctions -/

/-- The tokens of an operator, one for each of its words. -/
def operatorTokens (op : Operator) : List Token :=
  (Text.pieces (· == ' ') op.text.toList).map .word

/-- An operator between blanks spells its words. -/
theorem Spells.operator (op : Operator) :
    Spells (" " ++ op.text ++ " ") [] (operatorTokens op) := by
  cases op <;> exact of_tokens (by decide) fun _ => rfl

/-- The token of a conjunction. -/
def conjunctionToken (conjunction : Conjunction) : Token := .word conjunction.text.toList

/-- A conjunction between blanks spells its word. -/
theorem Spells.conjunction (conjunction : Conjunction) :
    Spells (" " ++ conjunction.text ++ " ") [] [conjunctionToken conjunction] := by
  cases conjunction <;> exact of_tokens (by decide) fun _ => rfl

/-- A text between parentheses spells its tokens between parentheses. -/
theorem Spells.parentheses {s : String} {values : List Scalar} {ts : List Token}
    (h : Spells s values ts) :
    Spells ("(" ++ s ++ ")") values (.opening :: (ts ++ [.closing])) := by
  have hopen : Spells "(" [] [.opening] := of_tokens (by decide) fun _ => rfl
  have hclose : Spells ")" [] [.closing] := of_tokens (by decide) fun _ => rfl
  have hall := (hopen.append h).append hclose
  rwa [List.nil_append, List.append_nil] at hall

/-- The markers of a list spell its values between commas. -/
theorem Spells.markers (values : List Scalar) :
    Spells (markers values.length) values
      ([.comma].intercalate (values.map fun v => [.value v])) := by
  have hcomma : Spells ", " [] [.comma] := of_tokens (by decide) fun _ => rfl
  have hvalues : List.Forall₂ (fun v v' => Spells "?" [v] [.value v']) values values :=
    List.forall₂_same.2 fun v _ => marker v
  have hall := hcomma.intercalate hvalues
  rwa [List.map_const', List.flatMap_singleton'] at hall

end RowQuery.Sql
