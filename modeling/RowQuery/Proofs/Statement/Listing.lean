import Mathlib
import RowQuery.Proofs.Condition.Redundancy
import RowQuery.Proofs.Select.Clauses
import RowQuery.Proofs.Sql.Listing

/-!
# Clauses without content

Every statement is written as what its description lists (`Select.listings`, `Delete.listings`,
`Update.listings`, `Insert.listings`): which items in which line, and between which texts. A clause
without content is left out, written as `WHERE TRUE`, or refused. There are two exceptions: a join
without pairs ends behind `ON`, and an insert whose first row has no columns lists none. Every other
clause of every statement has content (`clauses_filled`).
-/

namespace RowQuery

/-! ## Conditions -/

/-- The markers of an operand. -/
def Operand.listing : Operand → Sql.Listing
  | .single _ => .text "?"
  | .list values => .list "(" ", " ")" (List.replicate values.length (.text "?"))

namespace Comparison

/-- What a comparison lists: its operand, behind column and operator. -/
def listing (c : Comparison) : Sql.Listing :=
  .list (Sql.quoted c.column ++ " " ++ c.operator.text ++ " ") "" "" [c.operand.listing]

/-- A comparison is written as what it lists. -/
@[simp]
theorem sql_listing (c : Comparison) : c.listing.sql = c.written.sql := by
  have hplaces : c.operand.listing.sql = c.operand.places := by
    cases c.operand with
    | single v => rfl
    | list values => simp [Operand.listing, Operand.places, Sql.markers]
  simp [listing, written, hplaces]

/-- A comparison with an operand that suits it lists markers. -/
theorem Suited.filled_listing {c : Comparison} (h : c.Suited) : c.listing.Filled := by
  have hoperand : c.operand.listing.Filled := by
    unfold Suited at h
    cases hc : c.operand with
    | single v => simp [Operand.listing]
    | list values =>
      rw [hc] at h
      simp [Operand.listing, List.mem_replicate, h.2]
  simpa [listing] using hoperand

end Comparison

namespace Condition

variable {c n : Condition} {depth : Nat} {f : Fragment} {filter? : Option Condition}

mutual

/-- What a normal form lists as it stands beside others: the members of a group, between
parentheses. -/
def listing : Condition → Sql.Listing
  | .raw sql _ => .text ("(" ++ sql ++ ")")
  | .compare c => c.listing
  | .group conjunction members =>
    .list "(" (" " ++ conjunction.text ++ " ") ")" (memberListings members)

/-- What the members of a group list. -/
def memberListings : List Condition → List Sql.Listing
  | [] => []
  | m :: rest => listing m :: memberListings rest

end

/-- A group lists its members. -/
theorem listing_group (conjunction : Conjunction) (members : List Condition) :
    (group conjunction members).listing =
      .list "(" (" " ++ conjunction.text ++ " ") ")" (members.map listing) := by
  have hmembers : memberListings members = members.map listing := by
    induction members with
    | nil => rfl
    | cons m members ih => rw [memberListings, ih, List.map_cons]
  rw [listing, hmembers]

/-- A normal form is written as what it lists. -/
theorem Normal.wrapped_eq (normal : n.Normal) (h : n.fragment depth = .ok f) :
    f.isEmpty = false ∧ f.wrapped = n.listing.sql := by
  induction normal generalizing depth f with
  | raw sql values =>
    obtain ⟨-, rfl⟩ := fragment_raw_eq_ok.1 h
    simp [Fragment.isEmpty, Fragment.wrapped, listing]
  | compare c =>
    obtain ⟨-, hc⟩ := fragment_compare_eq_ok.1 h
    obtain ⟨-, -, rfl⟩ := Comparison.fragment_eq_ok.1 hc
    exact ⟨String.isEmpty_eq_false_iff.2 c.written_sql_ne_empty, c.sql_listing.symm⟩
  | @group conjunction members several normal ih =>
    obtain ⟨-, fs, hfs, rfl⟩ := fragment_group_eq_ok.1 h
    -- the members of a normal form all have text, so the group leaves none of them out
    have hmembers := forall₂_imp_of_mem hfs fun m hm f _ hf => ih m hm hf
    have hnonempty : ∀ f ∈ fs, f.isEmpty = false := by
      intro f hf
      obtain ⟨m, -, hm⟩ := exists_of_forall₂ hmembers.flip hf
      exact hm.1
    have hwrapped : members.map (·.listing.sql) = fs.map Fragment.wrapped :=
      map_eq_map_of_forall₂ (hmembers.imp fun _ _ hm => hm.2.symm)
    have hjoin := Fragment.join_several conjunction (hfs.length_eq ▸ several) hnonempty
    refine ⟨?_, by simp [hjoin, Fragment.wrapped, listing_group, ← hwrapped, Function.comp_def]⟩
    cases hempty : (Fragment.join conjunction fs).isEmpty with
    | false => rfl
    | true =>
      have hparens := congrArg Fragment.needsParens (Fragment.join_eq_empty hempty)
      rw [hjoin] at hparens
      cases hparens

/-- A normal form whose comparisons have operands that suit them lists something everywhere. -/
theorem Normal.filled_listing (normal : n.Normal)
    (suited : ∀ comparison ∈ n.comparisons, comparison.Suited) : n.listing.Filled := by
  induction normal with
  | raw sql values => simp [listing]
  | compare c => exact (suited c (List.mem_singleton.2 rfl)).filled_listing
  | @group conjunction members several normal ih =>
    rw [listing_group, Sql.Listing.filled_list_iff]
    refine ⟨?_, List.forall_mem_map.2 fun m hm => ?_⟩
    · intro hnil
      simp [List.map_eq_nil_iff.1 hnil] at several
    · exact ih m hm fun comparison hc => suited comparison (mem_comparisons_group hm hc)

/-- What the line of a filter lists. -/
def filterListing? (filter? : Option Condition) : Option Sql.Listing :=
  (filter?.bind normalForm).map fun n => .list "WHERE " "" "" [n.listing]

/-- The line of a filter is written as what it lists, and lists something everywhere. -/
theorem filterListing?_written (h : filterFragment filter? = .ok f) :
    f.whereClause? = (filterListing? filter?).map Sql.Listing.sql ∧
      ∀ line ∈ filterListing? filter?, line.Filled := by
  cases hfilter : filter? with
  | none =>
    rw [hfilter] at h
    cases h
    simp [filterListing?, Fragment.whereClause?, Fragment.isEmpty]
  | some c =>
    rw [hfilter] at h
    have hform : fragment? 0 c.normalForm = .ok f :=
      (fragment_eq_normalForm (height_le_of_fragment h)).symm.trans h
    cases hn : c.normalForm with
    | none =>
      rw [hn] at hform
      cases hform
      simp [filterListing?, hn, Fragment.whereClause?, Fragment.isEmpty]
    | some n =>
      rw [hn] at hform
      have hfragment : n.fragment 0 = .ok f := hform
      have normal := normal_of_normalForm hn
      obtain ⟨hnonempty, hwrapped⟩ := normal.wrapped_eq hfragment
      have hfilled := normal.filled_listing fun comparison hc => (suited_of_fragment hfragment hc).2
      simp [filterListing?, hn, Fragment.whereClause?, hnonempty, hwrapped, hfilled]

end Condition

/-! ## Selects -/

/-- What a join lists: its pairs, behind `ON`. -/
def Join.listing (join : Join) : Sql.Listing :=
  .list (join.kind.keyword ++ " " ++ Sql.tableReference join.table join.alias? ++ " ON ") " AND " ""
    (join.on.map fun pair => .text pair.text)

/-- A join is written as what it lists. -/
theorem Join.sql_listing (join : Join) : join.listing.sql = join.line := by
  simp [listing, line, JoinPair.text, Function.comp_def]

/-- A join lists something when it has a pair. -/
theorem Join.filled_listing_iff {join : Join} : join.listing.Filled ↔ join.on ≠ [] := by
  have hpair (pair : JoinPair) : pair.text ≠ "" := by simp [JoinPair.text]
  simp [listing, hpair]

namespace Select

variable {s : Select} {st : Statement}

/-- What the line of fields and table lists: the fields. -/
def fieldListing (s : Select) : Sql.Listing :=
  .list "SELECT " ", " (" FROM " ++ Sql.tableReference s.table s.alias?)
    (if s.fields.isEmpty then [.text "*"] else s.fields.map (.text ∘ Sql.quoted))

/-- What the lines of the joins list. -/
def joinListings (s : Select) : List (Option Sql.Listing) :=
  if s.joins.isEmpty then [none] else s.joins.map (some ∘ Join.listing)

/-- What the line of grouping columns lists. -/
def groupListing? (s : Select) : Option Sql.Listing :=
  Sql.clause? "GROUP BY " (s.groupBy.map (.text ∘ Sql.quoted))

/-- What the line of sort keys lists. -/
def orderListing? (s : Select) : Option Sql.Listing :=
  Sql.clause? "ORDER BY "
    (s.orderBy.map fun key => .text (Sql.quoted key.column ++ " " ++ key.direction.text))

/-- What the line of offset and row count lists. -/
def limitListing? (s : Select) : Option Sql.Listing :=
  Sql.clause? "LIMIT " (s.limitNumbers.map (.text ∘ toString))

/-- What the lines of a select list. -/
def listings (s : Select) : List (Option Sql.Listing) :=
  some s.fieldListing :: s.joinListings ++
    [Condition.filterListing? s.filter?, s.groupListing?, s.orderListing?, s.limitListing?]

/-- The fields are written as the line lists them. -/
theorem fieldsLine_eq_line {text : String} (h : s.fieldsLine = .ok text) :
    text = Sql.line (some s.fieldListing) := by
  rw [fieldsLine_eq] at h
  obtain ⟨fields, hfields, rfl⟩ := map_eq_ok.1 h
  unfold fieldList at hfields
  unfold fieldListing Sql.line
  split at hfields
  · next hempty =>
    cases hfields
    rw [if_pos hempty, Option.map_some, Option.getD_some, Sql.Listing.sql_list,
      String.append_assoc]
    rfl
  · next hne =>
    obtain ⟨-, rfl⟩ := Sql.quoteList_eq_ok.1 hfields
    simp [hne, String.append_assoc, Function.comp_def]

/-- The joins are written as their lines list them. -/
theorem joinLines_eq_map (s : Select) : s.joinLines = s.joinListings.map Sql.line := by
  unfold joinLines joinListings
  split
  · rfl
  · simp [Sql.line, Join.sql_listing, Function.comp_def]

/-- The grouping columns are written as the line lists them. -/
theorem groupLine_eq_line {text : String} (h : s.groupLine = .ok text) :
    text = Sql.line s.groupListing? := by
  unfold groupLine at h
  rw [groupListing?, Sql.line_clause?, List.isEmpty_map]
  split at h
  · next hempty =>
    cases h
    rw [if_pos hempty]
  · next hne =>
    obtain ⟨columns, hcolumns, rfl⟩ := map_eq_ok.1 h
    obtain ⟨-, rfl⟩ := Sql.quoteList_eq_ok.1 hcolumns
    simp [hne, Function.comp_def]

/-- The sort keys are written as the line lists them. -/
theorem orderLine_eq_line {text : String} (h : s.orderLine = .ok text) :
    text = Sql.line s.orderListing? := by
  unfold orderLine at h
  rw [orderListing?, Sql.line_clause?, List.isEmpty_map]
  split at h
  · next hempty =>
    cases h
    rw [if_pos hempty]
  · next hne =>
    obtain ⟨keys, hkeys, rfl⟩ := map_eq_ok.1 h
    obtain ⟨rfl, -⟩ := mapM_eq_map hkeys fun _ _ hkey => (OrderKey.sql_eq_ok.1 hkey).2
    simp [hne, Function.comp_def]

/-- Offset and row count are written as the line lists them. -/
theorem limitLine_eq_line (s : Select) : limitLine s.limit? s.skip? = Sql.line s.limitListing? := by
  rw [limitListing?, Sql.line_clause?]
  unfold limitLine limitNumbers
  dsimp only
  cases s.limit? with
  | some limit =>
    dsimp only
    split <;> simp [String.append_assoc]
  | none =>
    dsimp only
    split <;> simp [String.append_assoc]

/-- A select is written as what its lines list. -/
theorem sql_eq_ofListings (h : s.statement = .ok st) : st.sql = Sql.ofListings s.listings := by
  obtain ⟨fieldsLine, filter, groupLine, orderLine, hfields, hfilter, hgroup, horder, rfl⟩ :=
    statement_eq_ok.1 h
  rw [fieldsLine_eq_line hfields, joinLines_eq_map, (Condition.filterListing?_written hfilter).1,
    groupLine_eq_line hgroup, orderLine_eq_line horder, limitLine_eq_line]
  simp [Sql.ofListings, listings, Sql.line]

/-- The lines of a select that is written list something everywhere when its joins have pairs. -/
theorem allFilled_listings_iff (h : s.statement = .ok st) :
    Sql.AllFilled s.listings ↔ ∀ join ∈ s.joins, join.on ≠ [] := by
  obtain ⟨_, filter, _, _, -, hfilter, -⟩ := statement_eq_ok.1 h
  have hfields : s.fieldListing.Filled := by
    unfold fieldListing
    split
    · simp
    · next hne => simpa [Sql.quoted_ne_empty] using hne
  have hjoins : Sql.AllFilled s.joinListings ↔ ∀ join ∈ s.joins, join.on ≠ [] := by
    unfold joinListings
    split
    · next hempty => simp [List.isEmpty_iff.1 hempty]
    · simp [Sql.AllFilled, Join.filled_listing_iff]
  have hgroup : ∀ l ∈ s.groupListing?, l.Filled := fun l hl =>
    Sql.filled_of_mem_clause? hl (by simp [Sql.quoted_ne_empty])
  have horder : ∀ l ∈ s.orderListing?, l.Filled := fun l hl =>
    Sql.filled_of_mem_clause? hl (by simp [Sql.quoted_ne_empty])
  have hlimit : ∀ l ∈ s.limitListing?, l.Filled := fun l hl =>
    Sql.filled_of_mem_clause? hl (by simp)
  have hwhere := (Condition.filterListing?_written hfilter).2
  have hlast : Sql.AllFilled
      [Condition.filterListing? s.filter?, s.groupListing?, s.orderListing?, s.limitListing?] := by
    simp only [Sql.allFilled_cons, Sql.allFilled_nil, and_true]
    exact ⟨hwhere, hgroup, horder, hlimit⟩
  rw [listings, Sql.allFilled_append, Sql.allFilled_cons, hjoins, and_iff_left hlast]
  simp [hfields]

end Select

/-! ## Deletes -/

namespace Delete

variable {delete : Delete} {st : Statement}

/-- What the lines of a delete list. -/
def listings (delete : Delete) : List (Option Sql.Listing) :=
  some (.text ("DELETE FROM " ++ delete.table)) ::
    (Condition.filterListing? delete.filter?).toList.map some

/-- A delete is written as what its lines list, and lists something everywhere. -/
theorem listings_written (h : delete.statement = .ok st) :
    st.sql = Sql.ofListings delete.listings ∧ Sql.AllFilled delete.listings := by
  obtain ⟨filter, hfilter, rfl⟩ := statement_eq_ok.1 h
  obtain ⟨hwhere, hfilled⟩ := Condition.filterListing?_written hfilter
  rw [hwhere]
  unfold listings
  cases hlisting : Condition.filterListing? delete.filter? with
  | none => simp [Sql.ofListings, Sql.line]
  | some l =>
    rw [hlisting] at hfilled
    simp [Sql.ofListings, Sql.line, hfilled l rfl]

end Delete

/-! ## Updates -/

namespace Update

variable {update : Update} {st : Statement}

/-- What the line that restricts the rows lists. -/
def whereListing (update : Update) : Sql.Listing :=
  if update.filter.isEmpty then .list "WHERE " "" "" [.text "TRUE"]
  else .list "WHERE " " AND " "" (update.filter.map Comparison.listing)

/-- What the lines of an update list. -/
def listings (update : Update) : List (Option Sql.Listing) :=
  [some (.text ("UPDATE " ++ update.table)),
    some (.list "SET " ", " ""
      (update.assignments.entries.map fun entry => .text (Sql.quoted entry.1 ++ " = ?"))),
    some update.whereListing]

/-- The line that restricts the rows is written as what it lists, and lists something. -/
theorem whereListing_written {members : List Fragment}
    (h : List.Forall₂ (fun c f => c.fragment = .ok f) update.filter members) :
    whereLine members = update.whereListing.sql ∧ update.whereListing.Filled := by
  obtain ⟨rfl, hfragments⟩ := mapM_eq_map (mapM_eq_ok.2 h) fun _ _ hf =>
    (Comparison.fragment_eq_ok.1 hf).2.2.symm
  have hfilled : ∀ c ∈ update.filter, c.listing.Filled := fun c hc =>
    (Comparison.fragment_eq_ok.1 (hfragments c hc)).2.1.filled_listing
  unfold whereLine whereListing
  rw [List.isEmpty_map]
  split
  · simp
  · next hne =>
    exact ⟨by simp [Function.comp_def], .list (by simpa using hne) (List.forall_mem_map.2 hfilled)⟩

/-- An update is written as what its lines list, and lists something everywhere. -/
theorem listings_written (h : update.statement = .ok st) :
    st.sql = Sql.ofListings update.listings ∧ Sql.AllFilled update.listings := by
  obtain ⟨hentries, settings, members, hsettings, hmembers, rfl⟩ := statement_eq_ok.1 h
  obtain ⟨hwhere, hfilled⟩ := whereListing_written hmembers
  have hnames : (update.assignments.entries.map fun entry => Sql.quoted entry.1 ++ " = ?") =
      settings.map Prod.fst :=
    map_eq_map_of_forall₂ (hsettings.imp fun _ _ hs => (assignment_eq_ok.1 hs).2.1)
  have hset : (Sql.Listing.list "SET " ", " "" (update.assignments.entries.map fun entry =>
      .text (Sql.quoted entry.1 ++ " = ?"))).Filled :=
    .list (by simpa using hentries) (List.forall_mem_map.2 fun entry _ => by simp)
  rw [hwhere, ← hnames]
  refine ⟨by simp [Sql.ofListings, Sql.line, listings, Function.comp_def], ?_⟩
  simp [listings, -Sql.Listing.filled_list_iff, hset, hfilled]

end Update

/-! ## Inserts -/

/-- What the line for rows that are there already lists: the columns. -/
def InsertType.duplicateListing? (columns : List String) : InsertType → Option Sql.Listing
  | .insertOrUpdate => some (.list "ON DUPLICATE KEY UPDATE " ", " ""
      (columns.map fun column => .text (column ++ " = VALUES(" ++ column ++ ")")))
  | .insertNew | .replace => none

/-- The line for rows that are there already is written as what it lists. -/
theorem InsertType.duplicateLine_eq_line (columns : List String) (insertType : InsertType) :
    insertType.duplicateLine columns = Sql.line (insertType.duplicateListing? columns) := by
  cases insertType with
  | insertOrUpdate =>
    unfold duplicateLine duplicateListing?
    simp [Sql.line, Function.comp_def]
  | insertNew => rfl
  | replace => rfl

namespace Insert

variable {insert : Insert} {st : Statement}

/-- The columns of an insert, which are those of its first row. -/
def columns (insert : Insert) : List String := (insert.rows.head?.map Row.columns).getD []

/-- What the lines of an insert list. -/
def listings (insert : Insert) : List (Option Sql.Listing) :=
  let place := .list "(" ", " ")" (List.replicate insert.columns.length (.text "?"))
  [some (.text insert.insertType.keyword),
    some (.list ("INTO " ++ insert.table ++ " (") ", " ")" (insert.columns.map .text)),
    some (.list "VALUES " ", " "" (List.replicate insert.rows.length place)),
    insert.insertType.duplicateListing? insert.columns]

/-- An insert is written as what its lines list. -/
theorem sql_eq_ofListings (h : insert.statement = .ok st) :
    st.sql = Sql.ofListings insert.listings := by
  obtain ⟨first, cells, hfirst, -, rfl⟩ := statement_eq_ok.1 h
  have hcolumns : insert.columns = first.columns := by simp [columns, hfirst]
  rw [← hcolumns, InsertType.duplicateLine_eq_line]
  simp [Sql.ofListings, Sql.line, listings, Sql.markers, Function.comp_def]

/-- The lines of an insert that is written list something everywhere when its first row has columns
and all of these have names. -/
theorem allFilled_listings_iff (h : insert.statement = .ok st) :
    Sql.AllFilled insert.listings ↔ insert.columns ≠ [] ∧ "" ∉ insert.columns := by
  obtain ⟨first, cells, hfirst, -, -⟩ := statement_eq_ok.1 h
  have hrows : insert.rows ≠ [] := by
    intro hnil
    rw [hnil] at hfirst
    cases hfirst
  have hkeyword : insert.insertType.keyword ≠ "" := by cases insert.insertType <;> decide
  have hnamed : (∀ column ∈ insert.columns, column ≠ "") ↔ "" ∉ insert.columns :=
    ⟨fun h hempty => h "" hempty rfl, fun h _ hcolumn he => h (he ▸ hcolumn)⟩
  have hduplicate : insert.columns ≠ [] →
      ∀ l ∈ insert.insertType.duplicateListing? insert.columns, l.Filled := by
    intro hne
    cases insert.insertType <;> simp [InsertType.duplicateListing?, hne]
  have hplaces : insert.columns ≠ [] → (Sql.Listing.list "VALUES " ", " ""
      (List.replicate insert.rows.length (.list "(" ", " ")"
        (List.replicate insert.columns.length (.text "?"))))).Filled := by
    intro hne
    simp [List.mem_replicate, hrows, hne]
  constructor
  · intro h
    have hlist := h _ (List.mem_cons_of_mem _ List.mem_cons_self)
    simpa [hnamed] using hlist
  · rintro ⟨hne, hnames⟩
    have hcolumns : (Sql.Listing.list ("INTO " ++ insert.table ++ " (") ", " ")"
        (insert.columns.map .text)).Filled :=
      .list (by simpa using hne) (List.forall_mem_map.2 fun _ hc => .text (hnamed.2 hnames _ hc))
    have hlast := hduplicate hne
    simp only [listings, Sql.allFilled_cons, Sql.allFilled_nil, and_true]
    exact ⟨by simpa using hkeyword, by simpa using hcolumns, by simpa using hplaces hne, hlast⟩

end Insert

/-! ## The result -/

/-- Every statement is written as what its description lists. Each of its clauses lists something,
down to the markers of `IN` and `VALUES`, but for a select that has a join without pairs, and for an
insert whose first row has no columns or one without a name. -/
theorem clauses_filled (s : Select) (delete : Delete) (update : Update) (insert : Insert)
    (st : Statement) :
    (s.statement = .ok st → st.sql = Sql.ofListings s.listings ∧
      (Sql.AllFilled s.listings ↔ ∀ join ∈ s.joins, join.on ≠ [])) ∧
    (delete.statement = .ok st →
      st.sql = Sql.ofListings delete.listings ∧ Sql.AllFilled delete.listings) ∧
    (update.statement = .ok st →
      st.sql = Sql.ofListings update.listings ∧ Sql.AllFilled update.listings) ∧
    (insert.statement = .ok st → st.sql = Sql.ofListings insert.listings ∧
      (Sql.AllFilled insert.listings ↔ insert.columns ≠ [] ∧ "" ∉ insert.columns)) :=
  ⟨fun h => ⟨Select.sql_eq_ofListings h, Select.allFilled_listings_iff h⟩,
    Delete.listings_written, Update.listings_written,
    fun h => ⟨Insert.sql_eq_ofListings h, Insert.allFilled_listings_iff h⟩⟩

/-- The clauses of a select with a join and of an insert of two rows list something, and so do those
of a delete and of an update of all rows. -/
theorem clauses_filled_of_changes :
    let pair : JoinPair := ⟨"t.id", .eq, "u.id"⟩
    let s : Select := {
      table := "t", joins := [{ table := "u", on := [pair, pair] }]
      filter? := some (.isIn "a" [.int 1, .int 2]), groupBy := ["b"] }
    let delete : Delete := ⟨"t", none⟩
    let update : Update := ⟨"t", .ofFields [("a", .null)], []⟩
    let row (cell : Json) := Row.ofFields [("a", cell), ("b", .null)]
    let insert : Insert := { table := "t", rows := [row .null, row (.bool true)] }
    Sql.AllFilled s.listings ∧ Sql.AllFilled delete.listings ∧
      "UPDATE t\nSET `a` = ?\nWHERE TRUE" = Sql.ofListings update.listings ∧
      Sql.AllFilled update.listings ∧ Sql.AllFilled insert.listings := by
  intro pair s delete update row insert
  have hselect : s.statement = .ok ⟨"SELECT * FROM t\nJOIN u ON t.id = u.id AND t.id = u.id\n" ++
    "WHERE `a` IN (?, ?)\nGROUP BY `b`\n\n", [.int 1, .int 2]⟩ := by cbv
  have hdelete : delete.statement = .ok ⟨"DELETE FROM t", []⟩ := by cbv
  have hupdate : update.statement = .ok ⟨"UPDATE t\nSET `a` = ?\nWHERE TRUE", [.null]⟩ := by cbv
  have hinsert : insert.statement = .ok ⟨"INSERT\nINTO t (a, b)\nVALUES (?, ?), (?, ?)\n" ++
    "ON DUPLICATE KEY UPDATE a = VALUES(a), b = VALUES(b)",
    [.null, .null, .bool true, .null]⟩ := by rfl
  have hall (st : Statement) := clauses_filled s delete update insert st
  obtain ⟨hsql, hfilled⟩ := (hall _).2.2.1 hupdate
  refine ⟨((hall _).1 hselect).2.2 (by simp [s]), ((hall _).2.1 hdelete).2, hsql, hfilled, ?_⟩
  exact ((hall _).2.2.2 hinsert).2.2 ⟨List.cons_ne_nil _ _, by decide⟩

/-- A select with a join without pairs and an insert of a row without columns are written, with
nothing behind `ON`, in the parentheses and behind `UPDATE`. -/
theorem clauses_left_empty :
    let s : Select := { table := "t", joins := [{ table := "u", on := [] }] }
    let insert : Insert := { table := "t", rows := [.ofFields []] }
    s.statement = .ok ⟨"SELECT * FROM t\nJOIN u ON \n\n\n\n", []⟩ ∧ ¬ Sql.AllFilled s.listings ∧
      insert.statement = .ok ⟨"INSERT\nINTO t ()\nVALUES ()\nON DUPLICATE KEY UPDATE ", []⟩ ∧
      ¬ Sql.AllFilled insert.listings := by
  intro s insert
  have hselect : s.statement = .ok ⟨"SELECT * FROM t\nJOIN u ON \n\n\n\n", []⟩ := by cbv
  have hinsert : insert.statement =
    .ok ⟨"INSERT\nINTO t ()\nVALUES ()\nON DUPLICATE KEY UPDATE ", []⟩ := by rfl
  refine ⟨hselect, fun h => ?_, hinsert, fun h => ?_⟩
  · exact (Select.allFilled_listings_iff hselect).1 h _ List.mem_cons_self rfl
  · exact ((Insert.allFilled_listings_iff hinsert).1 h).1 rfl

end RowQuery
