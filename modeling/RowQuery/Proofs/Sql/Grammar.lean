import RowQuery.Proofs.Condition.NormalForm
import RowQuery.Proofs.Sql.Token
import RowQuery.Proofs.Steps

/-!
# The grammar of restrictions

The tokens of a text are first sorted by parentheses (`Sql.nest`): what stands between the same
parentheses is a list of parts, in which what stands between inner parentheses is one part. Such a
list is read as conditions joined by `OR`, each of them conditions joined by `AND`
(`Sql.expression?`), so `AND` binds tighter. The members of a conjunction are conditions between
parentheses and comparisons: a dotted name, the words of an operator, and a value or a list of
values between parentheses (`Sql.comparison?`).

`Sql.restriction?` reads a text with the values of its markers as the condition that it states.
-/

namespace RowQuery.Sql

/-! ## Parts -/

/-- What stands beside others between the same parentheses. -/
inductive Part where
  | token (t : Token)
  /-- Values between parentheses. -/
  | list (values : List Scalar)
  /-- A condition between parentheses. -/
  | inner (c : Condition)

namespace Part

/-- Whether the part is a token. -/
def is (t : Token) : Part → Bool
  | .token u => u = t
  | _ => false

/-- Whether the part belongs to a name. -/
def isName : Part → Bool
  | .token (.segment _) | .token .star | .token .dot => true
  | _ => false

/-- The run that the part is, if it is a word. -/
def word? : Part → Option (List Char)
  | .token (.word run) => some run
  | _ => none

/-- Whether the part may stand in a list of values. -/
def isListed : Part → Bool
  | .token (.value _) | .token .comma => true
  | _ => false

end Part

/-! ## Comparisons -/

/-- A segment of a name; a star by itself is one. -/
def segment? : List Part → Option (List Char)
  | [.token (.segment name)] => some name
  | [.token .star] => some ['*']
  | _ => none

/-- A name of dotted segments. -/
def name? (parts : List Part) : Option String :=
  ((Text.pieces (Part.is .dot) parts).mapM segment?).map fun segments =>
    String.ofList (['.'].intercalate segments)

/-- All operators. -/
def operators : List Operator :=
  [.eq, .ne, .ge, .gt, .le, .lt, .is, .isNot, .like, .notLike, .isIn, .notIn]

/-- The operator that is written with these words. -/
def operator? (parts : List Part) : Option Operator :=
  (parts.mapM Part.word?).bind fun words =>
    operators.find? fun op => Text.pieces (· == ' ') op.text.toList = words

/-- One value, or a list of values between parentheses. -/
def operand? : List Part → Option Operand
  | [.token (.value v)] => some (.single v)
  | [.list values] => some (.list values)
  | _ => none

/-- A comparison, with a list of values where its operator takes one. -/
def comparison? (parts : List Part) : Option Condition := do
  let column ← name? (parts.takeWhile Part.isName)
  let rest := parts.dropWhile Part.isName
  let operator ← operator? (rest.takeWhile (·.word?.isSome))
  let operand ← operand? (rest.dropWhile (·.word?.isSome))
  match operand with
  | .single _ => if operator.takesList then none else some (.compare { column, operator, operand })
  | .list _ => if operator.takesList then some (.compare { column, operator, operand }) else none

/-! ## Conjunctions -/

/-- A member of a conjunction. -/
def member? : List Part → Option Condition
  | [.inner c] => some c
  | parts => comparison? parts

/-- What stands between the occurrences of a conjunction, each read by itself. -/
def joined? (conjunction : Conjunction) (read : List Part → Option Condition)
    (parts : List Part) : Option Condition :=
  ((Text.pieces (Part.is (conjunctionToken conjunction)) parts).mapM read).bind
    (Condition.collapse conjunction)

/-- A condition; `AND` binds tighter than `OR`. -/
def expression? (parts : List Part) : Option Condition := joined? .or (joined? .and member?) parts

/-! ## Parentheses -/

/-- The value of one part. -/
def value? : List Part → Option Scalar
  | [.token (.value v)] => some v
  | _ => none

/-- What stands between parentheses as one part: values between commas, or a condition. -/
def close? (parts : List Part) : Option Part :=
  if parts.all Part.isListed then
    ((Text.pieces (Part.is .comma) parts).mapM value?).map .list
  else (expression? parts).map .inner

/-- The parts outside of all parentheses. The parts read so far between the innermost parentheses
and those around them are given with the last part first. -/
def nest (around : List (List Part)) (level : List Part) : List Token → Option (List Part)
  | [] => if around.isEmpty then some level.reverse else none
  | .opening :: ts => nest (level :: around) [] ts
  | .closing :: ts =>
    match around with
    | [] => none
    | outer :: around =>
      (close? level.reverse).bind fun part => nest around (part :: outer) ts
  | t :: ts => nest around (.token t :: level) ts

/-- The condition that a text with the values of its markers states; an empty text states none. -/
def restriction? (sql : String) (values : List Scalar) : Option (Option Condition) :=
  if sql.isEmpty then if values.isEmpty then some none else none
  else (((boundTokens sql values).bind (nest [] [])).bind expression?).map some

/-! ## Tokens that are sorted into parts -/

/-- The tokens are sorted into these parts, wherever they stand and whatever follows them. -/
def Nests (ts : List Token) (parts : List Part) : Prop :=
  ∀ around level rest, nest around level (ts ++ rest) = nest around (parts.reverse ++ level) rest

namespace Nests

/-- No tokens make no parts. -/
theorem nil : Nests [] [] := fun _ _ _ => rfl

/-- Tokens behind others make parts behind theirs. -/
theorem append {ts us : List Token} {ps qs : List Part} (h : Nests ts ps) (h' : Nests us qs) :
    Nests (ts ++ us) (ps ++ qs) := by
  intro around level rest
  rw [List.append_assoc, h, h', List.reverse_append, List.append_assoc]

/-- Tokens that are no parentheses are parts themselves. -/
theorem plain {ts : List Token} (h : ∀ t ∈ ts, t ≠ .opening ∧ t ≠ .closing) :
    Nests ts (ts.map .token) := by
  induction ts with
  | nil => exact nil
  | cons t ts ih =>
    have ht : Nests [t] [.token t] := by
      intro around level rest
      obtain ⟨hopening, hclosing⟩ := h t List.mem_cons_self
      cases t with
      | opening => exact absurd rfl hopening
      | closing => exact absurd rfl hclosing
      | _ => rfl
    exact ht.append (ih fun u hu => h u (List.mem_cons_of_mem _ hu))

/-- Tokens between parentheses make one part. -/
theorem parentheses {ts : List Token} {parts : List Part} {part : Part} (h : Nests ts parts)
    (hclose : close? parts = some part) : Nests (.opening :: (ts ++ [.closing])) [part] := by
  intro around level rest
  show nest (level :: around) [] ((ts ++ [.closing]) ++ rest) = _
  rw [List.append_assoc, h, List.append_nil]
  show (close? parts.reverse.reverse).bind _ = _
  rw [List.reverse_reverse, hclose]
  rfl

/-- Tokens joined by a separator make parts joined by those of the separator. -/
theorem intercalate {σ : Type} {seps : List Token} {partSeps : List Part}
    (hsep : Nests seps partSeps) {spelling : σ → List Token} {parts : σ → List Part}
    {items : List σ} (h : ∀ i ∈ items, Nests (spelling i) (parts i)) :
    Nests (seps.intercalate (items.map spelling)) (partSeps.intercalate (items.map parts)) := by
  induction items with
  | nil => exact nil
  | cons i items ih =>
    have hi := h i List.mem_cons_self
    have hrest := ih fun j hj => h j (List.mem_cons_of_mem _ hj)
    cases items with
    | nil => simpa using hi
    | cons j items =>
      rw [List.map_cons, List.map_cons, List.map_cons, List.map_cons,
        List.intercalate_cons_cons, List.intercalate_cons_cons]
      exact (hi.append hsep).append hrest

/-- A whole text is sorted into the parts of its tokens. -/
theorem nest_eq {ts : List Token} {parts : List Part} (h : Nests ts parts) :
    nest [] [] ts = some parts := by
  have hnest := h [] [] []
  rw [List.append_nil, List.append_nil] at hnest
  rw [hnest, nest, List.reverse_reverse]
  rfl

end Nests

/-! ## Reading names, operators and lists back -/

/-- The tokens of a name are parts of a name. -/
theorem isName_of_mem_nameTokens {name : String} {p : Part}
    (h : p ∈ (nameTokens name).map Part.token) : p.isName = true := by
  obtain ⟨t, ht, rfl⟩ := List.mem_map.1 h
  rcases Text.of_mem_intercalate ht with hdot | ⟨part, hpart, ht⟩
  · rw [List.mem_singleton.1 hdot]
    rfl
  · obtain ⟨segment, -, rfl⟩ := List.mem_map.1 hpart
    rw [List.mem_singleton.1 ht, segmentToken]
    split <;> rfl

/-- The tokens of a name are read as the name. -/
theorem name?_nameTokens (name : String) : name? ((nameTokens name).map .token) = some name := by
  have hsegments : ((Text.pieces (· == '.') name.toList).map fun s =>
      [Part.token (segmentToken s)]).mapM segment? = some (Text.pieces (· == '.') name.toList) := by
    refine mapM_map_eq_some fun segment _ => ?_
    unfold segmentToken
    split
    · next h => rw [h]; rfl
    · rfl
  have hpieces : Text.pieces (Part.is .dot) ((nameTokens name).map .token) =
      (Text.pieces (· == '.') name.toList).map fun s => [Part.token (segmentToken s)] := by
    rw [nameTokens, Text.map_intercalate, List.map_map]
    refine Text.pieces_intercalate rfl ?_ ?_
    · intro part hpart p hp
      obtain ⟨segment, -, rfl⟩ := List.mem_map.1 hpart
      rw [List.mem_singleton.1 hp, segmentToken]
      split <;> rfl
    · rw [ne_eq, List.map_eq_nil_iff]
      exact Text.pieces_ne_nil _ _
  rw [name?, hpieces, hsegments, Option.map_some, Text.intercalate_pieces, String.ofList_toList]

/-- The tokens of an operator are read as the operator. -/
theorem operator?_operatorTokens (op : Operator) :
    operator? ((operatorTokens op).map .token) = some op := by
  cases op <;> rfl

/-- Values between commas are read as a list. -/
theorem close?_values {values : List Scalar} (h : values ≠ []) :
    close? (([Token.comma].intercalate (values.map fun v => [.value v])).map .token) =
      some (.list values) := by
  have hvalues : (values.map fun v => [Part.token (.value v)]).mapM value? = some values :=
    mapM_map_eq_some fun v _ => rfl
  have hparts : ([Token.comma].intercalate (values.map fun v => [.value v])).map Part.token =
      [Part.token .comma].intercalate (values.map fun v => [Part.token (.value v)]) := by
    rw [Text.map_intercalate, List.map_map]
    rfl
  have hpieces : Text.pieces (Part.is .comma)
      ([Part.token .comma].intercalate (values.map fun v => [Part.token (.value v)])) =
      values.map fun v => [Part.token (.value v)] := by
    refine Text.pieces_intercalate rfl ?_ (by rwa [ne_eq, List.map_eq_nil_iff])
    intro part hpart p hp
    obtain ⟨v, -, rfl⟩ := List.mem_map.1 hpart
    rw [List.mem_singleton.1 hp]
    rfl
  have hlisted : ([Part.token .comma].intercalate
      (values.map fun v => [Part.token (.value v)])).all Part.isListed = true := by
    refine List.all_eq_true.2 fun p hp => ?_
    rcases Text.of_mem_intercalate hp with hcomma | ⟨part, hpart, hp⟩
    · rw [List.mem_singleton.1 hcomma]
      rfl
    · obtain ⟨v, -, rfl⟩ := List.mem_map.1 hpart
      rw [List.mem_singleton.1 hp]
      rfl
  rw [hparts, close?, if_pos hlisted, hpieces, hvalues]
  rfl

end RowQuery.Sql
