import RowQuery.Proofs.Sql.Grammar
import Mathlib.Tactic.IntervalCases

/-!
# Clauses

A statement is a row of clauses, each with a word at its head that stands nowhere else. So the
tokens of a statement determine what its clauses hold (`Sql.clauses_inj`), and what a clause holds
can be read off its tokens, if it is a list of items between commas (`Sql.Separable.list_inj`), such
as names and numbers. A text without markers is read as its tokens also where values are not yet
bound (`Sql.Spells.tokens_append`).
-/

namespace RowQuery.Sql

/-! ## Tokens before values are bound -/

/-- The token before a value was bound to it. -/
def Token.unbound : Token → Token
  | .value _ => .marker
  | t => t

/-- Reading a text binds no values. -/
theorem map_unbound_tokens (pending : Pending) (s : List Char) :
    (tokens pending s).map Token.unbound = tokens pending s := by
  have hstart (c : Char) : (start c).1.map Token.unbound = (start c).1 := by
    unfold start
    split
    · rfl
    split
    · rfl
    split
    · rfl
    · show [(Token.single c).unbound] = _
      unfold Token.single
      split <;> rfl
  fun_induction tokens pending s with
  | case1 | case2 | case3 => rfl
  | case4 c s ih => rw [List.map_append, hstart, ih]
  | case5 read c s _ ih => exact ih
  | case6 read c s _ ih => rw [List.map_cons, List.map_append, hstart, ih]; rfl
  | case7 read s ih => rw [List.map_cons, ih]; rfl
  | case8 read c s _ ih => exact ih

/-- Binding values only changes markers. -/
theorem map_unbound_of_bind {ts bound : List Token} {values : List Scalar}
    (h : bind ts values = some bound) : bound.map Token.unbound = ts.map Token.unbound := by
  fun_induction bind ts values generalizing bound with
  | case1 =>
    cases h
    rfl
  | case2 | case3 => cases h
  | case4 ts v values ih =>
    obtain ⟨rest, hrest, rfl⟩ := Option.map_eq_some_iff.1 h
    rw [List.map_cons, List.map_cons, ih hrest]
    rfl
  | case5 t ts values _ _ ih =>
    obtain ⟨rest, hrest, rfl⟩ := Option.map_eq_some_iff.1 h
    rw [List.map_cons, List.map_cons, ih hrest]

/-- For some values there are as many as markers. -/
theorem exists_bind (ts : List Token) : ∃ values bound, bind ts values = some bound := by
  induction ts with
  | nil => exact ⟨[], [], rfl⟩
  | cons t ts ih =>
    obtain ⟨values, bound, h⟩ := ih
    by_cases hmarker : t = .marker
    · refine ⟨.null :: values, .value .null :: bound, ?_⟩
      rw [hmarker, bind, h]
      rfl
    · refine ⟨values, t :: bound, ?_⟩
      have hsingle : Token.marker ∉ [t] := by simpa using Ne.symm hmarker
      have hbind := bind_append hsingle ts values
      rw [List.singleton_append, h] at hbind
      exact hbind

/-- A text without markers is read as its tokens, and what follows it as it is by itself. -/
theorem Spells.tokens_append {s : String} {ts : List Token} (h : Spells s [] ts)
    (hts : ts.map Token.unbound = ts) (rest : List Char) :
    tokens .nothing (s.toList ++ rest) = ts ++ tokens .nothing rest := by
  obtain ⟨values, bound, hbound⟩ := exists_bind (tokens .nothing rest)
  have hboth := h rest values
  rw [List.nil_append, hbound, Option.map_some] at hboth
  rw [← map_unbound_tokens, ← map_unbound_of_bind hboth, List.map_append, hts,
    map_unbound_of_bind hbound, map_unbound_tokens]

/-! ## Heads of clauses -/

/-- The tokens of a clause: its head and what it holds, if it holds anything. -/
def clause (head : Token) (body : List Token) : List Token :=
  if body = [] then [] else head :: body

/-- The tokens of a clause determine what it holds. -/
theorem clause_inj {head : Token} {body body' : List Token}
    (h : clause head body = clause head body') : body = body' := by
  unfold clause at h
  split at h
  · next hbody =>
    split at h
    · next hbody' => rw [hbody, hbody']
    · cases h
  · split at h
    · cases h
    · exact (List.cons.inj h).2

/-- What holds of the head and of what a clause holds holds of its tokens. -/
theorem forall_mem_clause {P : Token → Prop} {head : Token} {body : List Token} (hhead : P head)
    (h : ∀ t ∈ body, P t) : ∀ t ∈ clause head body, P t := by
  unfold clause
  split
  · exact fun t ht => absurd ht List.not_mem_nil
  · exact List.forall_mem_cons.2 ⟨hhead, h⟩

/-- The tokens of clauses, one behind the other. -/
def clauses (heads : List Token) (bodies : List (List Token)) : List Token :=
  (List.zipWith clause heads bodies).flatten

/-- Clauses begin with one of their heads. -/
theorem head?_clauses (heads : List Token) (bodies : List (List Token)) :
    ∀ t ∈ (clauses heads bodies).head?, t ∈ heads := by
  induction heads generalizing bodies with
  | nil => simp [clauses]
  | cons head heads ih =>
    cases bodies with
    | nil => simp [clauses]
    | cons body bodies =>
      intro t ht
      rw [clauses, List.zipWith_cons_cons, List.flatten_cons, clause] at ht
      by_cases hbody : body = []
      · rw [if_pos hbody] at ht
        exact List.mem_cons_of_mem head (ih bodies t ht)
      · rw [if_neg hbody] at ht
        exact List.mem_cons.2 (.inl (Option.some.inj ht).symm)

/-- Clauses with the same heads, which stand in none of them, hold the same when they are the same
tokens. -/
theorem clauses_inj {heads : List Token} {bodies bodies' : List (List Token)}
    (hheads : heads.Nodup) (hlength : bodies.length = heads.length)
    (hlength' : bodies'.length = heads.length)
    (hbodies : ∀ body ∈ bodies, ∀ t ∈ body, t ∉ heads)
    (hbodies' : ∀ body ∈ bodies', ∀ t ∈ body, t ∉ heads)
    (h : clauses heads bodies = clauses heads bodies') : bodies = bodies' := by
  induction heads generalizing bodies bodies' with
  | nil => rw [List.length_eq_zero_iff.1 hlength, List.length_eq_zero_iff.1 hlength']
  | cons head heads ih =>
    cases bodies with
    | nil => cases hlength
    | cons body bodies =>
      cases bodies' with
      | nil => cases hlength'
      | cons body' bodies' =>
        rw [List.nodup_cons] at hheads
        rw [List.forall_mem_cons] at hbodies hbodies'
        have hclause {body : List Token} (hbody : ∀ t ∈ body, t ∉ head :: heads) :
            ∀ t ∈ clause head body, t ∉ heads := by
          intro t ht
          unfold clause at ht
          split at ht
          · cases ht
          · rcases List.mem_cons.1 ht with rfl | ht
            · exact hheads.1
            · exact fun hmem => hbody t ht (List.mem_cons_of_mem head hmem)
        have hrest {bodies : List (List Token)} (h : ∀ body ∈ bodies, ∀ t ∈ body, t ∉ head :: heads) :
            ∀ body ∈ bodies, ∀ t ∈ body, t ∉ heads := fun body hbody t ht hmem =>
          h body hbody t ht (List.mem_cons_of_mem head hmem)
        obtain ⟨hfirst, hothers⟩ := Text.append_inj_of_head (p := (· ∉ heads)) (hclause hbodies.1)
          (hclause hbodies'.1) (fun t ht => not_not.2 (head?_clauses heads bodies t ht))
          (fun t ht => not_not.2 (head?_clauses heads bodies' t ht)) h
        rw [clause_inj hfirst, ih hheads.2 (Nat.succ.inj hlength) (Nat.succ.inj hlength') (hrest hbodies.2)
          (hrest hbodies'.2) hothers]

/-! ## Lists -/

section Lists

variable {α : Type} {spelling : α → List Token} {items items' : List α}

/-- The tokens of items between commas. -/
def listTokens (spelling : α → List Token) (items : List α) : List Token :=
  [.comma].intercalate (items.map spelling)

/-- Items that are spelled like this are told apart between commas. -/
structure Separable (spelling : α → List Token) : Prop where
  injective : Function.Injective spelling
  nonempty : ∀ a, spelling a ≠ []
  absent : ∀ a, Token.comma ∉ spelling a

/-- What holds of a comma and of the tokens of every item holds of the tokens of a list. -/
theorem forall_mem_listTokens {P : Token → Prop} (comma : P .comma)
    (h : ∀ a ∈ items, ∀ t ∈ spelling a, P t) : ∀ t ∈ listTokens spelling items, P t :=
  Text.forall_mem_intercalate (by simpa using comma) (by simpa using h)

/-- Only a list without items has no tokens. -/
theorem Separable.eq_nil (h : Separable spelling) (hnil : listTokens spelling items = []) :
    items = [] := by
  match items with
  | [] => rfl
  | [a] => exact absurd (by simpa [listTokens] using hnil) (h.nonempty a)
  | a :: b :: rest => simp [listTokens, List.intercalate_cons_cons] at hnil

/-- The commas between the tokens of a list end its items. -/
theorem Separable.pieces_listTokens (h : Separable spelling) (hitems : items ≠ []) :
    Text.pieces (· == Token.comma) (listTokens spelling items) = items.map spelling := by
  refine Text.pieces_intercalate (by simp) ?_ (mt List.map_eq_nil_iff.1 hitems)
  simp only [List.forall_mem_map, beq_eq_false_iff_ne]
  exact fun a _ t ht hcomma => h.absent a (hcomma ▸ ht)

/-- The tokens of a list determine its items. -/
theorem Separable.list_inj (h : Separable spelling)
    (heq : listTokens spelling items = listTokens spelling items') : items = items' := by
  by_cases hitems : items = []
  · subst hitems
    exact (h.eq_nil heq.symm).symm
  · have hitems' : items' ≠ [] := by
      rintro rfl
      exact hitems (h.eq_nil heq)
    refine h.injective.list_map ?_
    rw [← h.pieces_listTokens hitems, heq, h.pieces_listTokens hitems']

end Lists

/-! ## Names -/

/-- The tokens of a name determine it. -/
theorem nameTokens_inj {name name' : String} (h : nameTokens name = nameTokens name') :
    name = name' := by
  have hname := name?_nameTokens name
  rw [h, name?_nameTokens] at hname
  exact (Option.some.inj hname).symm

/-- A name has a token. -/
theorem nameTokens_ne_nil (name : String) : nameTokens name ≠ [] := by
  intro h
  have hname := name?_nameTokens name
  rw [h] at hname
  cases hname

/-- A token of a name is a segment, a star or a dot. -/
theorem isName_of_mem {name : String} {t : Token} (h : t ∈ nameTokens name) :
    (Part.token t).isName = true := isName_of_mem_nameTokens (List.mem_map_of_mem h)

/-- Names can stand in a list. -/
theorem separable_nameTokens : Separable nameTokens where
  injective _ _ := nameTokens_inj
  nonempty := nameTokens_ne_nil
  absent name hcomma := by cases isName_of_mem hcomma

/-- A list of quoted names spells its tokens. -/
theorem spells_quoteList {names : List String} {s : String} (h : quoteList names = .ok s) :
    Spells s [] (listTokens nameTokens names) := by
  have hcomma : Spells ", " [] [.comma] := .of_tokens (by decide) fun _ => rfl
  obtain ⟨hbackquote, rfl⟩ := quoteList_eq_ok.1 h
  have hnames : List.Forall₂ (fun name name' => Spells (quoted name) [] (nameTokens name'))
      names names := List.forall₂_same.2 fun name hname => .quoted (hbackquote name hname)
  have hall := hcomma.intercalate hnames
  rwa [List.flatMap_eq_nil_iff.2 fun _ _ => rfl] at hall

/-! ## Numbers -/

/-- The tokens of a number, one for each digit. -/
def numberTokens (n : Nat) : List Token := (Nat.toDigits 10 n).map .stray

/-- A number has a digit. -/
theorem numberTokens_ne_nil (n : Nat) : numberTokens n ≠ [] :=
  mt List.map_eq_nil_iff.1 Nat.toDigits_ne_nil

/-- A digit is a token by itself. -/
theorem start_of_isDigit {c : Char} (h : c.isDigit = true) : start c = ([.stray c], .nothing) := by
  have hrange : 48 ≤ c.toNat ∧ c.toNat ≤ 57 := by
    simpa [Char.isDigit, UInt32.le_iff_toNat_le] using h
  obtain ⟨hlow, hhigh⟩ := hrange
  rw [← Char.ofNat_toNat c]
  generalize c.toNat = n at hlow hhigh
  interval_cases n <;> rfl

/-- A number spells its digits. -/
theorem spells_toString (n : Nat) : Spells (toString n) [] (numberTokens n) := by
  have hdigits (digits : List Char) (h : ∀ c ∈ digits, c.isDigit = true) (rest : List Char) :
      tokens .nothing (digits ++ rest) = digits.map .stray ++ tokens .nothing rest := by
    induction digits with
    | nil => rfl
    | cons c digits ih =>
      rw [List.forall_mem_cons] at h
      rw [List.cons_append, tokens, start_of_isDigit h.1, ih h.2]
      rfl
  refine .of_tokens (by simp [numberTokens]) fun rest => ?_
  rw [Nat.toString_eq_ofList_toDigits, String.toList_ofList]
  exact hdigits _ (fun c hc => Nat.isDigit_of_mem_toDigits (by decide) (by decide) hc) rest

/-- Numbers can stand in a list. -/
theorem separable_numberTokens : Separable numberTokens where
  injective n m h := by
    have hstray : Function.Injective Token.stray := fun _ _ => Token.stray.inj
    have hdigits := congrArg (Nat.ofDigitChars 10 · 0) (hstray.list_map h)
    simpa only [Nat.ofDigitChars_ten_toDigits] using hdigits
  nonempty := numberTokens_ne_nil
  absent n hcomma := by
    obtain ⟨digit, -, hdigit⟩ := List.mem_map.1 hcomma
    cases hdigit

end RowQuery.Sql
