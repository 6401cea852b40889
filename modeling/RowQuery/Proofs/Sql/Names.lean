import RowQuery.Proofs.Sql.Clause

/-!
# Lists of names

A list of names can be quoted unless one of them holds a backquote, and the first that does is
reported. What is written can be read back (`Sql.names?`): the commas outside of backquotes end the
names, the dots outside of them end the segments, and whatever stands between backquotes is a
segment. So no two lists of names are written alike, whatever else their names hold
(`Sql.quoting_exact`).
-/

namespace RowQuery.Sql

/-! ## Names that are refused -/

/-- What is wrong with a name, if it holds a backquote. -/
def nameFault? (name : String) : Option QueryError :=
  if backquote ∈ name.toList then some (.unsupportedIdentifier name) else none

/-- A name that holds a backquote is reported. -/
theorem reports_quoteIdentifier (name : String) :
    Reports (quoteIdentifier name) (nameFault? name) := by
  simp only [quoteIdentifier, nameFault?, List.contains_iff_mem]
  exact (Reports.ok _).guarded _ _

/-- Of a list of names, the first that holds a backquote is reported. -/
theorem reports_quoteList (names : List String) :
    Reports (quoteList names) (names.findSome? nameFault?) :=
  (Reports.mapM fun name _ => reports_quoteIdentifier name).bind fun _ _ => ⟨_, rfl⟩

/-- The name that is reported holds a backquote, and none before it does. -/
theorem quoteList_eq_error {names : List String} {e : QueryError} :
    quoteList names = .error e ↔ ∃ before name after, names = before ++ name :: after ∧
      (∀ other ∈ before, backquote ∉ other.toList) ∧ backquote ∈ name.toList ∧
        e = .unsupportedIdentifier name := by
  rw [reports_quoteList names e, List.findSome?_eq_some_iff]
  simp only [nameFault?, ite_eq_right_iff, Option.ite_none_right_eq_some, Option.some.injEq,
    reduceCtorEq, imp_false]
  constructor
  · rintro ⟨before, name, after, hnames, ⟨hname, he⟩, hbefore⟩
    exact ⟨before, name, after, hnames, hbefore, hname, he.symm⟩
  · rintro ⟨before, name, after, hnames, hbefore, hname, he⟩
    exact ⟨before, name, after, hnames, ⟨hname, he.symm⟩, hbefore⟩

/-! ## Reading names -/

/-- The names that tokens list between commas. -/
def listedNames? (ts : List Token) : Option (List String) :=
  if ts.isEmpty then some []
  else (Text.pieces (· == .comma) ts).mapM fun piece => name? (piece.map .token)

/-- The names that a text lists between commas; an empty text lists none. -/
def names? (sql : String) : Option (List String) := (boundTokens sql []).bind listedNames?

/-- The tokens of names between commas are read as the names. -/
theorem listedNames?_listTokens (names : List String) :
    listedNames? (listTokens nameTokens names) = some names := by
  unfold listedNames?
  split
  · next hempty => rw [separable_nameTokens.eq_nil (List.isEmpty_iff.1 hempty)]
  · next hsome =>
    have hnames : names ≠ [] := by
      rintro rfl
      exact hsome rfl
    rw [separable_nameTokens.pieces_listTokens hnames]
    exact mapM_map_eq_some fun name _ => name?_nameTokens name

/-- The text of a list of names is read as the names, whatever characters they hold. -/
theorem names?_of_quoteList {names : List String} {s : String} (h : quoteList names = .ok s) :
    names? s = some names := by
  have htokens : boundTokens s [] = some (listTokens nameTokens names) :=
    (spells_quoteList h).boundTokens
  rw [names?, htokens, Option.bind_some, listedNames?_listTokens]

/-! ## The result -/

/-- How a list of names is quoted. -/
structure QuotedExactly (names : List String) : Prop where
  /-- It is quoted when no name holds a backquote. -/
  ok_iff : (∃ s, quoteList names = .ok s) ↔ ∀ name ∈ names, backquote ∉ name.toList
  /-- Otherwise the first name that holds one is reported. -/
  error_iff : ∀ e, quoteList names = .error e ↔
    ∃ before name after, names = before ++ name :: after ∧
      (∀ other ∈ before, backquote ∉ other.toList) ∧ backquote ∈ name.toList ∧
        e = .unsupportedIdentifier name
  /-- The tokens of what is written are the segments of the names, a segment that is a star by
  itself as a star, with dots between them and commas between the names. -/
  scanned : ∀ s, quoteList names = .ok s → boundTokens s [] = some (listTokens nameTokens names)
  /-- So the names are read back from it. -/
  read : ∀ s, quoteList names = .ok s → names? s = some names
  /-- No other list of names is written like this. -/
  unique : ∀ others s, quoteList names = .ok s → quoteList others = .ok s → names = others

/-- Quoting refuses the names that hold a backquote and tells all others apart. -/
theorem quoting_exact (names : List String) : QuotedExactly names where
  ok_iff := by simp only [quoteList_eq_ok, exists_and_left, exists_eq, and_true]
  error_iff _ := quoteList_eq_error
  scanned _ h := (spells_quoteList h).boundTokens
  read _ h := names?_of_quoteList h
  unique others s h h' := by
    have hnames := names?_of_quoteList h
    rw [names?_of_quoteList h'] at hnames
    exact (Option.some.inj hnames).symm

/-- Names with commas, blanks, parentheses and quotes, with empty segments and with stars, and the
first of two names with backquotes. -/
theorem quoting_exact_of_hostile_names :
    let names := ["t.*", "a, b", "*", "..", "", "f(\"x\").\x27 *"]
    let s := "`t`.*, `a, b`, *, ``.``.``, ``, `f(\"x\")`.`\x27 *`"
    quoteList names = .ok s ∧ names? s = some names ∧
      (∀ others, quoteList others = .ok s → names = others) ∧
      quoteList ["a", "b`", "`c"] = .error (.unsupportedIdentifier "b`") := by
  intro names s
  have h : quoteList names = .ok s := rfl
  refine ⟨h, (quoting_exact names).read s h, fun others => (quoting_exact names).unique others s h, ?_⟩
  exact ((quoting_exact _).error_iff _).2
    ⟨["a"], "b`", ["`c"], rfl, by decide, by decide, rfl⟩

end RowQuery.Sql
