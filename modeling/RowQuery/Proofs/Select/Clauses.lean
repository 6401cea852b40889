import RowQuery.Proofs.Condition.Spelling
import RowQuery.Proofs.Sql.Clause
import RowQuery.Proofs.Statement.Lines

/-!
# What the SQL of a select spells

The statement of a select without joins and raw fragments begins with its fields
(`Select.fieldTokens`) and its table as it is given, and goes on with its clauses
(`Select.statement_spells`): the normal form of the filter, the grouping columns, the sort keys and
the numbers of the window, each behind a word of its own (`Select.bodies`).
-/

namespace RowQuery

/-! ## Sort keys -/

namespace OrderKey

/-- The tokens of a sort key. -/
def tokens (key : OrderKey) : List Sql.Token :=
  Sql.nameTokens key.column ++ [.word key.direction.text.toList]

/-- Sort keys can stand in a list. -/
theorem separable_tokens : Sql.Separable tokens where
  injective key key' h := by
    obtain ⟨hcolumn, hdirection⟩ := List.append_inj' h rfl
    obtain ⟨column, direction⟩ := key
    obtain ⟨column', direction'⟩ := key'
    obtain rfl : column = column' := Sql.nameTokens_inj hcolumn
    change [Sql.Token.word direction.text.toList] = [.word direction'.text.toList] at hdirection
    cases direction <;> cases direction' <;> first | rfl | exact absurd hdirection (by decide)
  nonempty _ := List.append_ne_nil_of_right_ne_nil _ (List.cons_ne_nil _ _)
  absent key hcomma := by
    rcases List.mem_append.1 hcomma with hname | hdirection
    · cases Sql.isName_of_mem hname
    · cases List.mem_singleton.1 hdirection

/-- A sort key is written as a quoted name and a direction. -/
theorem sql_eq_ok {key : OrderKey} {text : String} : key.sql = .ok text ↔
    Sql.backquote ∉ key.column.toList ∧ Sql.quoted key.column ++ " " ++ key.direction.text = text := by
  rw [sql, map_eq_ok]
  constructor
  · rintro ⟨column, hcolumn, rfl⟩
    obtain ⟨hbackquote, rfl⟩ := Sql.quoteIdentifier_eq_ok.1 hcolumn
    exact ⟨hbackquote, rfl⟩
  · rintro ⟨hbackquote, rfl⟩
    exact ⟨_, Sql.quoteIdentifier_eq_ok.2 ⟨hbackquote, rfl⟩, rfl⟩

/-- Sort keys at the end of a line spell their tokens. -/
theorem spells_keys {keys : List OrderKey} {texts : List String} (hne : keys ≠ [])
    (h : List.Forall₂ (fun key text => key.sql = .ok text) keys texts) :
    Sql.Spells (", ".intercalate texts ++ "\n") [] (Sql.listTokens tokens keys) := by
  unfold Sql.listTokens
  have hend (direction : Direction) : Sql.Spells (" " ++ direction.text ++ "\n") []
      [.word direction.text.toList] := by
    cases direction <;> exact .of_tokens (by decide) fun _ => rfl
  have hnext (direction : Direction) : Sql.Spells (" " ++ direction.text ++ ", ") []
      ([.word direction.text.toList] ++ [.comma]) := by
    cases direction <;> exact .of_tokens (by decide) fun _ => rfl
  induction h with
  | nil => exact absurd rfl hne
  | @cons key text keys texts hkey hrest ih =>
    obtain ⟨hcolumn, rfl⟩ := sql_eq_ok.1 hkey
    cases hrest with
    | nil =>
      have hall := (Sql.Spells.quoted hcolumn).append (hend key.direction)
      simpa only [String.intercalate_singleton, List.map_cons, List.map_nil,
        List.intercalate_singleton, tokens, String.append_assoc, List.append_nil] using hall
    | cons hkey' hrest =>
      have hall := ((Sql.Spells.quoted hcolumn).append (hnext key.direction)).append
        (ih (List.cons_ne_nil _ _))
      simpa only [String.intercalate_cons_cons, List.map_cons, List.intercalate_cons_cons, tokens,
        String.append_assoc, List.append_assoc, List.nil_append, List.append_nil] using hall

end OrderKey

/-! ## Parts of a select -/

namespace Select

variable {s s' : Select} {st : Statement}

/-- The normal form of the filter, if it says anything. -/
def filterForm (s : Select) : Option Condition := s.filter?.bind Condition.normalForm

/-- The numbers of the window: none, a row count, or an offset and a row count. -/
def limitNumbers (s : Select) : List Nat :=
  let skip := s.skip?.getD 0
  match s.limit? with
  | some limit => if 0 < skip then [skip.toNat, limit.toNat] else [limit.toNat]
  | none => if 0 < skip then [skip.toNat, unboundedLimit] else []

/-- The tokens of the fields. -/
def fieldTokens (s : Select) : List Sql.Token :=
  if s.fields = [] then [.star] else Sql.listTokens Sql.nameTokens s.fields

/-- The words at the heads of the clauses. -/
def heads : List Sql.Token :=
  [.word "WHERE".toList, .word "GROUP".toList, .word "ORDER".toList, .word "LIMIT".toList]

/-- The tokens of the filter. -/
def filterTokens (s : Select) : List Sql.Token :=
  (s.filterForm.map Condition.wrappedTokens).getD []

/-- The tokens of the grouping columns. -/
def groupTokens (s : Select) : List Sql.Token :=
  Sql.clause (.word "BY".toList) (Sql.listTokens Sql.nameTokens s.groupBy)

/-- The tokens of the sort keys. -/
def orderTokens (s : Select) : List Sql.Token :=
  Sql.clause (.word "BY".toList) (Sql.listTokens OrderKey.tokens s.orderBy)

/-- The tokens of the window. -/
def limitTokens (s : Select) : List Sql.Token := Sql.listTokens Sql.numberTokens s.limitNumbers

/-- What the clauses hold. -/
def bodies (s : Select) : List (List Sql.Token) :=
  [s.filterTokens, s.groupTokens, s.orderTokens, s.limitTokens]

/-! ## Clauses -/

/-- The fields are written as their tokens. -/
theorem spells_fieldList {fields : String} (h : s.fieldList = .ok fields) :
    Sql.Spells fields [] s.fieldTokens := by
  unfold fieldList at h
  unfold fieldTokens
  by_cases hfields : s.fields = []
  · rw [if_pos (List.isEmpty_iff.2 hfields)] at h
    cases h
    rw [if_pos hfields]
    exact .of_tokens (by decide) fun _ => rfl
  · rw [if_neg (by simpa using hfields)] at h
    rw [if_neg hfields]
    exact Sql.spells_quoteList h

/-- An empty line has no tokens. -/
theorem spells_emptyLine : Sql.Spells ("" ++ "\n") [] [] := .of_tokens (by simp) fun _ => rfl

/-- A condition has tokens as a member of a group, if it is no raw fragment. -/
theorem wrappedTokens_ne_nil {n : Condition} (free : n.RawFree) : n.wrappedTokens ≠ [] := by
  cases n with
  | raw sql values => exact absurd free Condition.not_rawFree_raw
  | group conjunction members => exact List.cons_ne_nil _ _
  | compare c =>
    intro h
    have hoperator : Sql.operatorTokens c.operator = [] :=
      (List.append_eq_nil_iff.1 (List.append_eq_nil_iff.1 h).1).2
    revert hoperator
    cases c.operator <;> decide

/-- The filter as it is written says its normal form. -/
theorem says_filterForm (free : ∀ c ∈ s.filter?, c.RawFree) {f : Fragment}
    (h : Condition.filterFragment s.filter? = .ok f) : f.Says s.filterForm := by
  unfold filterForm
  cases hfilter : s.filter? with
  | none =>
    rw [hfilter] at h
    cases h
    rfl
  | some c =>
    rw [hfilter] at h
    exact Condition.says_normalForm (free c hfilter) h

/-- A normal form of the filter has no raw fragments. -/
theorem rawFree_filterForm (free : ∀ c ∈ s.filter?, c.RawFree) {n : Condition}
    (h : s.filterForm = some n) : n.RawFree := by
  obtain ⟨c, hc, hn⟩ := Option.bind_eq_some_iff.1 h
  intro sql values hleaf
  rw [Condition.leaves_of_normalForm hn] at hleaf
  exact free c hc sql values hleaf

/-- The line of the filter spells its clause. -/
theorem spells_whereLine (free : ∀ c ∈ s.filter?, c.RawFree) {f : Fragment}
    (h : Condition.filterFragment s.filter? = .ok f) :
    Sql.Spells (f.whereClause?.getD "" ++ "\n") f.values
      (Sql.clause (.word "WHERE".toList) s.filterTokens) := by
  have hsays := says_filterForm free h
  unfold filterTokens
  cases hform : s.filterForm with
  | none =>
    rw [hform] at hsays
    obtain rfl : f = {} := hsays
    exact spells_emptyLine
  | some n =>
    rw [hform] at hsays
    have hwrites : f.Writes n := hsays
    have hhead : Sql.Spells "WHERE " [] [.word "WHERE".toList] :=
      .of_tokens (by decide) fun _ => rfl
    have hall := (hhead.append hwrites.spells_wrapped).append spells_emptyLine
    rw [Fragment.whereClause?, hwrites.nonempty, Option.map_some, Option.getD_some, Sql.clause,
      if_neg (wrappedTokens_ne_nil (rawFree_filterForm free hform))]
    simpa using hall

/-- The line of grouping columns spells its clause. -/
theorem spells_groupLine {line : String} (h : s.groupLine = .ok line) :
    Sql.Spells (line ++ "\n") [] (Sql.clause (.word "GROUP".toList) s.groupTokens) := by
  unfold groupLine at h
  unfold groupTokens
  by_cases hgroup : s.groupBy = []
  · rw [if_pos (List.isEmpty_iff.2 hgroup)] at h
    cases h
    rw [hgroup]
    exact spells_emptyLine
  · rw [if_neg (by simpa using hgroup)] at h
    obtain ⟨columns, hcolumns, rfl⟩ := map_eq_ok.1 h
    have hhead : Sql.Spells "GROUP BY " [] [.word "GROUP".toList, .word "BY".toList] :=
      .of_tokens (by decide) fun _ => rfl
    have hall := (hhead.append (Sql.spells_quoteList hcolumns)).append spells_emptyLine
    have hlist : Sql.listTokens Sql.nameTokens s.groupBy ≠ [] :=
      mt Sql.separable_nameTokens.eq_nil hgroup
    simpa [Sql.clause, hlist] using hall

/-- The line of sort keys spells its clause. -/
theorem spells_orderLine {line : String} (h : s.orderLine = .ok line) :
    Sql.Spells (line ++ "\n") [] (Sql.clause (.word "ORDER".toList) s.orderTokens) := by
  unfold orderLine at h
  unfold orderTokens
  by_cases horder : s.orderBy = []
  · rw [if_pos (List.isEmpty_iff.2 horder)] at h
    cases h
    rw [horder]
    exact spells_emptyLine
  · rw [if_neg (by simpa using horder)] at h
    obtain ⟨keys, hkeys, rfl⟩ := map_eq_ok.1 h
    have hhead : Sql.Spells "ORDER BY " [] [.word "ORDER".toList, .word "BY".toList] :=
      .of_tokens (by decide) fun _ => rfl
    have hall := hhead.append (OrderKey.spells_keys horder (mapM_eq_ok.1 hkeys))
    have hlist : Sql.listTokens OrderKey.tokens s.orderBy ≠ [] :=
      mt OrderKey.separable_tokens.eq_nil horder
    simpa [Sql.clause, hlist, String.append_assoc] using hall

/-- The line of offset and row count spells its clause. -/
theorem spells_limitLine (s : Select) : Sql.Spells (limitLine s.limit? s.skip?) []
    (Sql.clause (.word "LIMIT".toList) s.limitTokens) := by
  have hhead : Sql.Spells "LIMIT " [] [.word "LIMIT".toList] := .of_tokens (by decide) fun _ => rfl
  have hcomma : Sql.Spells ", " [] [.comma] := .of_tokens (by decide) fun _ => rfl
  have hone (n : Nat) : Sql.Spells ("LIMIT " ++ toString n) []
      (Sql.clause (.word "LIMIT".toList) ([Sql.Token.comma].intercalate [Sql.numberTokens n])) := by
    have hall := hhead.append (Sql.spells_toString n)
    rw [List.intercalate_singleton, Sql.clause, if_neg (Sql.numberTokens_ne_nil n)]
    simpa using hall
  have htwo (n m : Nat) : Sql.Spells ("LIMIT " ++ toString n ++ ", " ++ toString m) []
      (Sql.clause (.word "LIMIT".toList)
        ([Sql.Token.comma].intercalate [Sql.numberTokens n, Sql.numberTokens m])) := by
    have hall := ((hhead.append (Sql.spells_toString n)).append hcomma).append
      (Sql.spells_toString m)
    rw [List.intercalate_cons_cons, List.intercalate_singleton, Sql.clause, if_neg (by simp)]
    simpa using hall
  unfold limitLine limitTokens limitNumbers
  dsimp only
  cases s.limit? with
  | some limit =>
    dsimp only
    split
    · exact htwo _ _
    · exact hone _
  | none =>
    dsimp only
    split
    · exact htwo _ _
    · exact .empty

/-! ## Statements -/

/-- A select without joins and raw fragments is written as its fields, its table as it is given, and
a text that spells its clauses. -/
theorem statement_spells (hjoins : s.joins = []) (free : ∀ c ∈ s.filter?, c.RawFree)
    (h : s.statement = .ok st) : ∃ fields tail, s.fieldList = .ok fields ∧
      st.sql = "SELECT " ++ fields ++ " FROM " ++ (Sql.tableReference s.table s.alias? ++ tail) ∧
      Sql.Spells tail st.placedValues (Sql.clauses heads s.bodies) := by
  obtain ⟨fieldsLine, filter, groupLine, orderLine, hfields, hfilter, hgroup, horder, rfl⟩ :=
    statement_eq_ok.1 h
  rw [fieldsLine_eq] at hfields
  obtain ⟨fields, hlist, rfl⟩ := map_eq_ok.1 hfields
  have hjoinLines : s.joinLines = [""] := by rw [joinLines, hjoins]; rfl
  have hall := spells_emptyLine.append (spells_emptyLine.append
    ((spells_whereLine free hfilter).append ((spells_groupLine hgroup).append
      ((spells_orderLine horder).append (spells_limitLine s)))))
  have hclauses : Sql.clauses heads s.bodies = Sql.clause (.word "WHERE".toList) s.filterTokens ++
      (Sql.clause (.word "GROUP".toList) s.groupTokens ++
        (Sql.clause (.word "ORDER".toList) s.orderTokens ++
          Sql.clause (.word "LIMIT".toList) s.limitTokens)) := by
    simp [Sql.clauses, heads, bodies]
  simp only [List.nil_append, List.append_nil, ← hclauses] at hall
  refine ⟨fields, _, hlist, ?_, hall⟩
  rw [hjoinLines]
  simp [Sql.ofLines, String.append_assoc]

end Select

end RowQuery
