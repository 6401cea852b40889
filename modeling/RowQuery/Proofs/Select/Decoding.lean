import RowQuery.Proofs.Condition.Decoding
import RowQuery.Proofs.Select.Clauses

/-!
# The SQL of a select can be read back

Behind its table, the statement of a select is a row of clauses, and none of them holds the word at
the head of another (`Select.not_mem_heads_of_bodies`). So the tokens of each clause are told apart,
and they determine the normal form of the filter, the grouping columns, the sort keys and the numbers
of the window. Selects of one table with the same statement have the same parts
(`Select.parts_of_statement`), but for the two ways to ask for all fields: by naming none, and by a
star.
-/

namespace RowQuery.Select

variable {s s' : Select} {st : Statement}

/-! ## Heads of clauses -/

/-- A head of a clause is a word. -/
theorem not_mem_heads_of_not_word {t : Sql.Token} (h : (Sql.Part.token t).word? = none) :
    t ∉ heads := by
  intro ht
  simp only [heads, List.mem_cons, List.not_mem_nil, or_false] at ht
  rcases ht with rfl | rfl | rfl | rfl <;> cases h

/-- A token of a name is not the head of a clause. -/
theorem not_mem_heads_of_name (name : String) : ∀ t ∈ Sql.nameTokens name, t ∉ heads := by
  intro t ht
  have hname := Sql.isName_of_mem ht
  refine not_mem_heads_of_not_word ?_
  cases t <;> first | rfl | cases hname

/-- A word of an operator is not the head of a clause. -/
theorem not_mem_heads_of_operator (op : Operator) : ∀ t ∈ Sql.operatorTokens op, t ∉ heads := by
  cases op <;> decide

/-- A token of an operand is not the head of a clause. -/
theorem not_mem_heads_of_operand (operand : Operand) : ∀ t ∈ operand.tokens, t ∉ heads := by
  have hvalue (v : Scalar) : ∀ t ∈ [Sql.Token.value v], t ∉ heads :=
    List.forall_mem_singleton.2 (not_mem_heads_of_not_word rfl)
  cases operand with
  | single v => exact hvalue v
  | list values =>
    refine List.forall_mem_cons.2 ⟨not_mem_heads_of_not_word rfl, List.forall_mem_append.2 ⟨?_, ?_⟩⟩
    · exact Sql.forall_mem_listTokens (not_mem_heads_of_not_word rfl) fun v _ => hvalue v
    · exact List.forall_mem_singleton.2 (not_mem_heads_of_not_word rfl)

/-- A token of a comparison is not the head of a clause. -/
theorem not_mem_heads_of_comparison (c : Comparison) : ∀ t ∈ c.tokens, t ∉ heads :=
  List.forall_mem_append.2 ⟨List.forall_mem_append.2
    ⟨not_mem_heads_of_name c.column, not_mem_heads_of_operator c.operator⟩,
    not_mem_heads_of_operand c.operand⟩

/-- Parentheses around a condition bring no head of a clause. -/
theorem not_mem_heads_of_wrapped {m : Condition} (h : ∀ t ∈ m.tokens, t ∉ heads) :
    ∀ t ∈ m.wrappedTokens, t ∉ heads := by
  unfold Condition.wrappedTokens
  split
  · refine List.forall_mem_cons.2 ⟨not_mem_heads_of_not_word rfl, List.forall_mem_append.2 ⟨h, ?_⟩⟩
    exact List.forall_mem_singleton.2 (not_mem_heads_of_not_word rfl)
  · exact h

/-- A token of a condition is not the head of a clause. -/
theorem not_mem_heads_of_condition (m : Condition) : ∀ t ∈ m.tokens, t ∉ heads := by
  induction m using Condition.recMembers with
  | raw sql values => exact fun t ht => absurd ht List.not_mem_nil
  | compare c => exact not_mem_heads_of_comparison c
  | group conjunction members ih =>
    rw [Condition.tokens_group]
    refine Text.forall_mem_intercalate ?_ ?_
    · cases conjunction <;> decide
    · exact List.forall_mem_map.2 fun m hm => not_mem_heads_of_wrapped (ih m hm)

/-- A token of a sort key is not the head of a clause. -/
theorem not_mem_heads_of_key (key : OrderKey) : ∀ t ∈ key.tokens, t ∉ heads := by
  refine List.forall_mem_append.2 ⟨not_mem_heads_of_name key.column, ?_⟩
  cases key.direction <;> decide

/-- A digit is not the head of a clause. -/
theorem not_mem_heads_of_number (n : Nat) : ∀ t ∈ Sql.numberTokens n, t ∉ heads :=
  List.forall_mem_map.2 fun _ _ => not_mem_heads_of_not_word rfl

/-- No clause holds the head of one. -/
theorem not_mem_heads_of_bodies (s : Select) : ∀ body ∈ s.bodies, ∀ t ∈ body, t ∉ heads := by
  have hcomma : Sql.Token.comma ∉ heads := by decide
  have hby : Sql.Token.word "BY".toList ∉ heads := by decide
  simp only [bodies, List.forall_mem_cons, List.not_mem_nil, false_imp_iff, implies_true, and_true]
  refine ⟨?_, ?_, ?_, ?_⟩
  · unfold filterTokens
    cases s.filterForm with
    | none => exact fun t ht => absurd ht List.not_mem_nil
    | some n => exact not_mem_heads_of_wrapped (not_mem_heads_of_condition n)
  · exact Sql.forall_mem_clause hby
      (Sql.forall_mem_listTokens hcomma fun name _ => not_mem_heads_of_name name)
  · exact Sql.forall_mem_clause hby
      (Sql.forall_mem_listTokens hcomma fun key _ => not_mem_heads_of_key key)
  · exact Sql.forall_mem_listTokens hcomma fun n _ => not_mem_heads_of_number n

/-! ## Reading a statement back -/

/-- The filter that tokens state, if they are what stands behind `WHERE`. -/
def filterOf (ts : List Sql.Token) : Option Condition := (Sql.nest [] [] ts).bind Sql.member?

/-- The tokens of the filter state its normal form. -/
theorem filterOf_filterTokens (free : ∀ c ∈ s.filter?, c.RawFree) {f : Fragment}
    (h : Condition.filterFragment s.filter? = .ok f) : filterOf s.filterTokens = s.filterForm := by
  unfold filterTokens filterForm
  cases hfilter : s.filter? with
  | none => rfl
  | some c =>
    rw [hfilter] at h
    rw [Option.bind_some]
    cases hn : c.normalForm with
    | none => rfl
    | some n =>
      have hsuited := Condition.suited_of_normalForm h hn
      have hnormal := Condition.normal_of_normalForm hn
      have hfree := (free c hfilter).of_normalForm hn
      have hnests := Condition.nests_wrappedTokens
        (Condition.nests_tokens hnormal hsuited hfree) hnormal hsuited hfree
      rw [Option.map_some, Option.getD_some, filterOf, hnests.nest_eq]
      exact Condition.member?_memberParts hsuited

/-- What holds of a comma and of every token of a name holds of the tokens of the fields. -/
theorem forall_mem_fieldTokens {P : Sql.Token → Prop} (comma : P .comma)
    (h : ∀ t, (Sql.Part.token t).isName = true → P t) : ∀ t ∈ s.fieldTokens, P t := by
  unfold fieldTokens
  split
  · exact List.forall_mem_singleton.2 (h .star rfl)
  · exact Sql.forall_mem_listTokens comma fun _ _ t ht => h t (Sql.isName_of_mem ht)

/-- The fields of a statement are told apart from what follows them. -/
theorem fieldTokens_eq_of_append {fields fields' tail tail' : String}
    (h : s.fieldList = .ok fields) (h' : s'.fieldList = .ok fields')
    (heq : "SELECT " ++ fields ++ " FROM " ++ tail = "SELECT " ++ fields' ++ " FROM " ++ tail') :
    s.fieldTokens = s'.fieldTokens := by
  have hselect : Sql.Spells "SELECT " [] [.word "SELECT".toList] :=
    .of_tokens (by decide) fun _ => rfl
  have hfrom : Sql.Spells " FROM " [] [.word "FROM".toList] := .of_tokens (by decide) fun _ => rfl
  have hunbound (s : Select) : s.fieldTokens.map Sql.Token.unbound = s.fieldTokens := by
    have hsame : ∀ t ∈ s.fieldTokens, t.unbound = id t := forall_mem_fieldTokens rfl fun t ht => by
      cases t <;> first | rfl | cases ht
    rw [List.map_congr_left hsame, List.map_id]
  have htokens {s : Select} {fields : String} (h : s.fieldList = .ok fields) (tail : String) :
      Sql.tokens .nothing ("SELECT " ++ fields ++ " FROM " ++ tail).toList =
        .word "SELECT".toList ::
          (s.fieldTokens ++ .word "FROM".toList :: Sql.tokens .nothing tail.toList) := by
    have hall := (hselect.append (spells_fieldList h)).append hfrom
    rw [String.toList_append, hall.tokens_append (by simp [hunbound, Sql.Token.unbound])]
    simp
  have hlists := htokens h tail
  rw [heq, htokens h' tail'] at hlists
  have hfields (s : Select) : ∀ t ∈ s.fieldTokens, t ≠ .word "FROM".toList :=
    forall_mem_fieldTokens (by decide) fun t ht he => by
      subst he
      cases ht
  exact (Text.append_inj_of_head (hfields s') (hfields s) (by simp) (by simp)
    (List.cons.inj hlists).2).1.symm

/-- Of two selects one asks for all fields by naming none, and the other names a star alone. -/
def DifferInStar (s s' : Select) : Prop :=
  s.fields = [] ∧ s'.fields = ["*"] ∨ s.fields = ["*"] ∧ s'.fields = []

/-- The tokens of the fields determine them, but for the two ways to ask for all. -/
theorem fields_of_fieldTokens (h : s.fieldTokens = s'.fieldTokens) :
    s.fields = s'.fields ∨ DifferInStar s s' := by
  have hstar {names : List String} (h : Sql.listTokens Sql.nameTokens names = [.star]) :
      names = ["*"] := Sql.separable_nameTokens.list_inj h
  unfold fieldTokens at h
  split at h
  · next hfields =>
    split at h
    · next hfields' => exact .inl (hfields.trans hfields'.symm)
    · exact .inr (.inl ⟨hfields, hstar h.symm⟩)
  · split at h
    · next hfields' => exact .inr (.inr ⟨hstar h, hfields'⟩)
    · exact .inl (Sql.separable_nameTokens.list_inj h)

/-- Fields with the same tokens are written alike. -/
theorem fieldList_of_fieldTokens (h : s.fieldTokens = s'.fieldTokens) :
    s.fieldList = s'.fieldList := by
  unfold fieldList
  rcases fields_of_fieldTokens h with h | ⟨h, h'⟩ | ⟨h, h'⟩
  · rw [h]
  · rw [h, h']
    rfl
  · rw [h, h']
    rfl

/-- The parts of two selects that show in their statements are the same. -/
structure SameParts (s s' : Select) : Prop where
  /-- The fields are the same, or all are asked for in the two ways. -/
  fields : s.fields = s'.fields ∨ DifferInStar s s'
  filterForm : s.filterForm = s'.filterForm
  groupBy : s.groupBy = s'.groupBy
  orderBy : s.orderBy = s'.orderBy
  limitNumbers : s.limitNumbers = s'.limitNumbers

/-- Selects of one table without joins and raw fragments that have the same statement have the same
parts. -/
theorem parts_of_statement (htable : s.table = s'.table) (halias : s.alias? = s'.alias?)
    (hjoins : s.joins = []) (hjoins' : s'.joins = []) (free : ∀ c ∈ s.filter?, c.RawFree)
    (free' : ∀ c ∈ s'.filter?, c.RawFree) (h : s.statement = .ok st) (h' : s'.statement = .ok st) :
    SameParts s s' := by
  obtain ⟨fields, tail, hfields, hsql, hspells⟩ := statement_spells hjoins free h
  obtain ⟨fields', tail', hfields', hsql', hspells'⟩ := statement_spells hjoins' free' h'
  rw [hsql] at hsql'
  have htokens := fieldTokens_eq_of_append hfields hfields' hsql'
  obtain rfl : fields = fields' := by
    rw [fieldList_of_fieldTokens htokens, hfields'] at hfields
    exact (Except.ok.inj hfields).symm
  obtain rfl : tail = tail' := by
    rw [htable, halias] at hsql'
    have htail := congrArg String.toList hsql'
    simpa only [String.toList_append, List.append_cancel_left_eq, String.toList_inj] using htail
  have hclauses : Sql.clauses heads s.bodies = Sql.clauses heads s'.bodies :=
    Option.some.inj (hspells.boundTokens.symm.trans hspells'.boundTokens)
  have hbodies : s.bodies = s'.bodies := Sql.clauses_inj (by decide) rfl rfl
    (not_mem_heads_of_bodies s) (not_mem_heads_of_bodies s') hclauses
  simp only [bodies, List.cons.injEq, and_true] at hbodies
  obtain ⟨hfilter, hgroup, horder, hlimit⟩ := hbodies
  obtain ⟨-, f, -, -, -, hf, -⟩ := statement_eq_ok.1 h
  obtain ⟨-, f', -, -, -, hf', -⟩ := statement_eq_ok.1 h'
  exact {
    fields := fields_of_fieldTokens htokens
    filterForm := by
      rw [← filterOf_filterTokens free hf, hfilter, filterOf_filterTokens free' hf']
    groupBy := Sql.separable_nameTokens.list_inj (Sql.clause_inj hgroup)
    orderBy := OrderKey.separable_tokens.list_inj (Sql.clause_inj horder)
    limitNumbers := Sql.separable_numberTokens.list_inj hlimit }

end RowQuery.Select
