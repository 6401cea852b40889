import Mathlib
import RowQuery.Proofs.Condition.Alike
import RowQuery.Proofs.Select.Window
import RowQuery.Proofs.Statement.Listing

/-!
# The lines of a select

If no text that is written into a select breaks a line, the statement cut at its line breaks is the
line of fields and table, a line for each join or an empty one, and the lines of the four clauses,
each empty when its clause says nothing (`Select.LaidOut`). Each line is written from its own part
of the description, so descriptions that differ in one part have statements that differ in one line
(`Select.layout_fixed`).
-/

namespace RowQuery

/-! ## Texts of one line -/

namespace Sql

/-- The lines of a text. -/
def linesOf (sql : String) : List String := Text.piecesAt '\n' sql

/-- The text has no line break. -/
def OneLine (s : String) : Prop := '\n' ∉ s.toList

instance (s : String) : Decidable (OneLine s) := inferInstanceAs (Decidable (_ ∉ _))

/-- A blank is on one line. -/
theorem oneLine_blank : OneLine " " := by decide

/-- One text behind another on a line. -/
theorem OneLine.append {s t : String} (hs : OneLine s) (ht : OneLine t) : OneLine (s ++ t) := by
  rw [OneLine, String.toList_append, List.mem_append, not_or]
  exact ⟨hs, ht⟩

/-- Texts joined on a line. -/
theorem OneLine.intercalate {separator : String} {texts : List String} (hs : OneLine separator)
    (h : ∀ text ∈ texts, OneLine text) : OneLine (separator.intercalate texts) :=
  Text.not_mem_joined hs h

/-- A number is on one line. -/
theorem oneLine_toString (n : Nat) : OneLine (toString n) := by
  rw [OneLine, Nat.toString_eq_ofList_toDigits, String.toList_ofList]
  exact not_mem_toDigits (by decide) n

/-- A name without line breaks is quoted on one line. -/
theorem oneLine_quoted {name : String} (h : OneLine name) : OneLine (quoted name) := by
  refine .intercalate (by decide) (List.forall_mem_map.2 fun segment hsegment => ?_)
  have hnone : '\n' ∉ segment := fun hm => h (Text.mem_of_mem_pieces hsegment hm).1
  rw [OneLine, String.toList_ofList]
  unfold quoteSegment
  split
  · exact hnone
  · simp [hnone, backquote]

/-- A table with its alias on one line. -/
theorem oneLine_tableReference {table : String} {alias? : Option String} (htable : OneLine table)
    (halias : ∀ name ∈ alias?.toList, OneLine name) : OneLine (tableReference table alias?) := by
  cases alias? with
  | none => exact htable
  | some name =>
    have hbetween : OneLine " AS " := by decide
    exact (htable.append hbetween).append (halias name (List.mem_singleton.2 rfl))

/-- A list is on one line when everything in it is. -/
theorem oneLine_list {opening separator closing : String} {items : List Listing}
    (ho : OneLine opening) (hs : OneLine separator) (hc : OneLine closing)
    (h : ∀ item ∈ items, OneLine item.sql) :
    OneLine (Listing.list opening separator closing items).sql := by
  rw [Listing.sql_list]
  exact (ho.append (.intercalate hs (List.forall_mem_map.2 h))).append hc

/-- A clause is on one line when its items are. -/
theorem oneLine_clause? {opening : String} {items : List Listing} (ho : OneLine opening)
    (h : ∀ item ∈ items, OneLine item.sql) : OneLine (line (clause? opening items)) := by
  rw [line_clause?]
  split
  · decide
  · exact ho.append (.intercalate (by decide) (List.forall_mem_map.2 h))

/-- Lines without line breaks are the lines of the text that they make. -/
theorem linesOf_ofLines {lines : List String} (hne : lines ≠ []) (h : ∀ l ∈ lines, OneLine l) :
    linesOf (ofLines lines) = lines := by
  have hpieces : Text.pieces (· == '\n') (['\n'].intercalate (lines.map String.toList)) =
      lines.map String.toList := by
    refine Text.pieces_intercalate (by decide) (List.forall_mem_map.2 fun l hl c hc => ?_)
      (by simpa using hne)
    exact beq_eq_false_iff_ne.2 fun heq => h l hl (heq ▸ hc)
  rw [linesOf, Text.piecesAt, ofLines, String.toList_intercalate]
  show (Text.pieces (· == '\n') (['\n'].intercalate (lines.map String.toList))).map _ = _
  rw [hpieces, List.map_map]
  exact (List.map_congr_left fun l _ => String.ofList_toList).trans (List.map_id lines)

/-- The line of a clause is empty when the clause is vacuous, and else has a text behind its
words. -/
structure ClauseLine (words : String) (vacuous : Prop) (line : String) : Prop where
  empty_iff : line = "" ↔ vacuous
  behind : line ≠ "" → ∃ text, line = words ++ text

/-- The line of a clause of items, which is vacuous when there are none. -/
theorem clauseLine_clause? {α : Type} {words : String} (hwords : words ≠ "") (item : α → Listing)
    (l : List α) : ClauseLine words (l = []) (line (clause? words (l.map item))) := by
  rw [line_clause?, List.isEmpty_map]
  split
  · next hempty => exact ⟨iff_of_true rfl (List.isEmpty_iff.1 hempty), fun h => absurd rfl h⟩
  · next hne => exact ⟨by simpa [hwords] using hne, fun _ => ⟨_, rfl⟩⟩

end Sql

/-! ## Conditions -/

/-- A comparison of a column without line breaks is written on one line. -/
theorem Comparison.oneLine_listing {c : Comparison} (h : Sql.OneLine c.column) :
    Sql.OneLine c.listing.sql := by
  have hoperator : Sql.OneLine c.operator.text := by cases c.operator <;> decide
  have hplaces : Sql.OneLine c.operand.listing.sql := by
    cases c.operand with
    | single v => exact (by decide : Sql.OneLine "?")
    | list values =>
      refine Sql.oneLine_list (by decide) (by decide) (by decide) fun item hitem => ?_
      rw [List.eq_of_mem_replicate hitem]
      exact (by decide : Sql.OneLine "?")
  refine Sql.oneLine_list ?_ (by decide) (by decide) (by simpa using hplaces)
  exact (((Sql.oneLine_quoted h).append Sql.oneLine_blank).append hoperator).append
    Sql.oneLine_blank

namespace Condition

variable {c : Condition} {filter? : Option Condition}

/-- No column and no raw text of the condition has a line break. -/
structure Unbroken (c : Condition) : Prop where
  columns : ∀ column ∈ c.columns, Sql.OneLine column
  texts : ∀ text ∈ c.texts, Sql.OneLine text

/-- The members of a condition without line breaks have none. -/
theorem Unbroken.member {conjunction : Conjunction} {children : List Condition}
    (h : (group conjunction children).Unbroken) (hc : c ∈ children) : c.Unbroken where
  columns := List.forall_mem_map.2 fun _ hcomparison =>
    h.columns _ (List.mem_map_of_mem (mem_comparisons_group hc hcomparison))
  texts _ htext := h.texts _ (mem_texts_group hc htext)

/-- A condition without line breaks is written on one line. -/
theorem Unbroken.oneLine_listing (h : c.Unbroken) : Sql.OneLine c.listing.sql := by
  induction c using recMembers with
  | raw sql values =>
    have hsql := h.texts sql (List.mem_singleton.2 rfl)
    have hopening : Sql.OneLine "(" := by decide
    exact (hopening.append hsql).append (by decide : Sql.OneLine ")")
  | compare c => exact Comparison.oneLine_listing (h.columns _ (List.mem_singleton.2 rfl))
  | group conjunction children ih =>
    have hconjunction : Sql.OneLine (" " ++ conjunction.text ++ " ") := by
      cases conjunction <;> decide
    rw [listing_group]
    exact Sql.oneLine_list (by decide) hconjunction (by decide)
      (List.forall_mem_map.2 fun c hc => ih c hc (h.member hc))

/-- The line of a filter without line breaks. -/
theorem oneLine_filterListing? (h : ∀ c ∈ filter?, c.Unbroken) :
    Sql.OneLine (Sql.line (filterListing? filter?)) := by
  unfold filterListing?
  cases hform : filter?.bind normalForm with
  | none => exact (by decide : Sql.OneLine "")
  | some n =>
    obtain ⟨c, hc, hn⟩ := Option.bind_eq_some_iff.1 hform
    have hunbroken : n.Unbroken := by
      have hleaves := leaves_of_normalForm hn
      constructor
      · rw [columns, comparisons, hleaves]
        exact (h c hc).columns
      · rw [texts, hleaves]
        exact (h c hc).texts
    exact Sql.oneLine_list (by decide) (by decide) (by decide)
      (by simpa using hunbroken.oneLine_listing)

/-- The line of a filter, which is vacuous when it has no leaves. -/
theorem clauseLine_filterListing? (filter? : Option Condition) : Sql.ClauseLine "WHERE "
    (∀ c ∈ filter?, c.leaves = []) (Sql.line (filterListing? filter?)) := by
  have hvacuous : (∀ c ∈ filter?, c.leaves = []) ↔ filter?.bind normalForm = none := by
    cases filter? <;> simp [normalForm_eq_none_iff]
  rw [hvacuous]
  unfold filterListing?
  cases filter?.bind normalForm with
  | none => exact ⟨iff_of_true rfl rfl, fun h => absurd rfl h⟩
  | some n => exact ⟨by simp [Sql.line], fun _ => ⟨n.listing.sql, by simp [Sql.line]⟩⟩

end Condition

/-! ## Selects -/

/-- A join without line breaks is written on one line. -/
theorem Join.oneLine_listing {join : Join} (h : ∀ text ∈ join.texts, Sql.OneLine text) :
    Sql.OneLine join.listing.sql := by
  obtain ⟨htable, hothers⟩ := List.forall_mem_cons.1 h
  obtain ⟨halias, hnames⟩ := List.forall_mem_append.1 hothers
  have hkeyword : Sql.OneLine join.kind.keyword := by cases join.kind <;> decide
  have hreference := Sql.oneLine_tableReference htable halias
  have hpair : ∀ pair ∈ join.on, Sql.OneLine pair.text := by
    intro pair hpair
    have hleft := hnames pair.left (List.mem_flatMap.2 ⟨pair, hpair, by simp⟩)
    have hright := hnames pair.right (List.mem_flatMap.2 ⟨pair, hpair, by simp⟩)
    have hoperator : Sql.OneLine pair.operator.text := by cases pair.operator <;> decide
    exact (((hleft.append Sql.oneLine_blank).append hoperator).append Sql.oneLine_blank).append
      hright
  refine Sql.oneLine_list ?_ (by decide) (by decide) (List.forall_mem_map.2 hpair)
  exact ((hkeyword.append Sql.oneLine_blank).append hreference).append
    (by decide : Sql.OneLine " ON ")

namespace Select

variable {s s' : Select} {st st' : Statement}

/-- No text that is written into the statement has a line break. -/
structure Unbroken (s : Select) : Prop where
  /-- Table, alias and joins. -/
  texts : ∀ text ∈ s.texts, Sql.OneLine text
  fields : ∀ field ∈ s.fields, Sql.OneLine field
  filter : ∀ c ∈ s.filter?, c.Unbroken
  groupBy : ∀ column ∈ s.groupBy, Sql.OneLine column
  orderBy : ∀ key ∈ s.orderBy, Sql.OneLine key.column

/-- The line of fields and table without line breaks. -/
theorem Unbroken.oneLine_fieldListing (h : s.Unbroken) :
    Sql.OneLine (Sql.line (some s.fieldListing)) := by
  obtain ⟨htable, hothers⟩ := List.forall_mem_cons.1 h.texts
  obtain ⟨halias, -⟩ := List.forall_mem_append.1 hothers
  have hfrom : Sql.OneLine " FROM " := by decide
  refine Sql.oneLine_list (by decide) (by decide)
    (hfrom.append (Sql.oneLine_tableReference htable halias)) ?_
  split
  · exact List.forall_mem_singleton.2 (by decide : Sql.OneLine "*")
  · exact List.forall_mem_map.2 fun field hfield => Sql.oneLine_quoted (h.fields field hfield)

/-- The lines of joins without line breaks. -/
theorem Unbroken.oneLine_joinListings (h : s.Unbroken) :
    ∀ l ∈ s.joinListings, Sql.OneLine (Sql.line l) := by
  obtain ⟨-, hothers⟩ := List.forall_mem_cons.1 h.texts
  obtain ⟨-, hjoins⟩ := List.forall_mem_append.1 hothers
  unfold joinListings
  split
  · exact List.forall_mem_singleton.2 (by decide : Sql.OneLine "")
  · exact List.forall_mem_map.2 fun join hjoin => join.oneLine_listing fun text ht =>
      hjoins text (List.mem_flatMap.2 ⟨join, hjoin, ht⟩)

/-- What a select without line breaks lists is written line by line. -/
theorem Unbroken.oneLine_listings (h : s.Unbroken) :
    ∀ l ∈ s.listings, Sql.OneLine (Sql.line l) := by
  have hgroup : Sql.OneLine (Sql.line s.groupListing?) :=
    Sql.oneLine_clause? (by decide) (List.forall_mem_map.2 fun column hcolumn =>
      Sql.oneLine_quoted (h.groupBy column hcolumn))
  have horder : Sql.OneLine (Sql.line s.orderListing?) := by
    refine Sql.oneLine_clause? (by decide) (List.forall_mem_map.2 fun key hkey => ?_)
    have hdirection : Sql.OneLine key.direction.text := by cases key.direction <;> decide
    exact ((Sql.oneLine_quoted (h.orderBy key hkey)).append Sql.oneLine_blank).append hdirection
  have hlimit : Sql.OneLine (Sql.line s.limitListing?) :=
    Sql.oneLine_clause? (by decide) (List.forall_mem_map.2 fun n _ => Sql.oneLine_toString n)
  refine List.forall_mem_append.2
    ⟨List.forall_mem_cons.2 ⟨h.oneLine_fieldListing, h.oneLine_joinListings⟩, ?_⟩
  simp only [List.forall_mem_cons]
  exact ⟨Condition.oneLine_filterListing? h.filter, hgroup, horder, hlimit, List.forall_mem_nil _⟩

/-- A select without line breaks has the lines that it lists. -/
theorem linesOf_sql (h : s.statement = .ok st) (unbroken : s.Unbroken) :
    Sql.linesOf st.sql = s.listings.map Sql.line := by
  rw [sql_eq_ofListings h]
  exact Sql.linesOf_ofLines (by simp [listings])
    (List.forall_mem_map.2 unbroken.oneLine_listings)

/-! ## The layout -/

/-- A line for each join, or an empty one. -/
theorem length_joinListings (s : Select) : s.joinListings.length = max 1 s.joins.length := by
  unfold joinListings
  split
  · next hempty => simp [List.isEmpty_iff.1 hempty]
  · next hne =>
    have hpositive : 0 < s.joins.length := List.length_pos_iff.2 (by simpa using hne)
    rw [List.length_map]
    omega

/-- There are no numbers when neither a row count nor an offset is given. -/
theorem limitNumbers_eq_nil_iff : s.limitNumbers = [] ↔ s.limit? = none ∧ s.skip?.getD 0 = 0 := by
  unfold limitNumbers
  dsimp only
  cases s.limit? with
  | some limit =>
    dsimp only
    split <;> simp
  | none =>
    dsimp only
    split
    · next hskip => simp [(UInt64.pos_iff_ne_zero).1 hskip]
    · next hskip => simpa [UInt64.pos_iff_ne_zero] using hskip

/-- The lines of a select: fields and table, joins, filter, grouping columns, sort keys, window. -/
structure LaidOut (s : Select) (lines : List String) : Prop where
  /-- There are five lines and one for each join, but at least one. -/
  length : lines.length = 5 + max 1 s.joins.length
  /-- The lines stand in this order, those of the clauses empty when the clauses are vacuous. -/
  lines : ∃ fields filter group order window,
    lines = fields :: s.joinLines ++ [filter, group, order, window] ∧ s.fieldsLine = .ok fields ∧
      Sql.ClauseLine "WHERE " (∀ c ∈ s.filter?, c.leaves = []) filter ∧
      Sql.ClauseLine "GROUP BY " (s.groupBy = []) group ∧
      Sql.ClauseLine "ORDER BY " (s.orderBy = []) order ∧
      Sql.ClauseLine "LIMIT " (s.limit? = none ∧ s.skip?.getD 0 = 0) window

/-- A select without line breaks is laid out in lines. -/
theorem laidOut (h : s.statement = .ok st) (unbroken : s.Unbroken) :
    s.LaidOut (Sql.linesOf st.sql) := by
  obtain ⟨fields, _, _, _, hfields, -⟩ := statement_eq_ok.1 h
  rw [linesOf_sql h unbroken]
  have hlength : (s.listings.map Sql.line).length = 5 + max 1 s.joins.length := by
    simp only [listings, List.length_map, List.length_append, List.length_cons, List.length_nil,
      length_joinListings]
    omega
  have hgroup : Sql.ClauseLine "GROUP BY " (s.groupBy = []) (Sql.line s.groupListing?) :=
    Sql.clauseLine_clause? (by decide) _ s.groupBy
  have horder : Sql.ClauseLine "ORDER BY " (s.orderBy = []) (Sql.line s.orderListing?) :=
    Sql.clauseLine_clause? (by decide) _ s.orderBy
  have hwindow : Sql.ClauseLine "LIMIT " (s.limitNumbers = []) (Sql.line s.limitListing?) :=
    Sql.clauseLine_clause? (by decide) _ s.limitNumbers
  rw [limitNumbers_eq_nil_iff] at hwindow
  refine ⟨hlength, fields, _, _, _, _, ?_, hfields,
    Condition.clauseLine_filterListing? s.filter?, hgroup, horder, hwindow⟩
  rw [fieldsLine_eq_line hfields, joinLines_eq_map]
  simp [listings]

/-! ## Parts -/

/-- A part of a description that is written on a line of its own. -/
inductive Part where
  /-- The fields and the table with its alias. -/
  | fields
  | filter
  | groupBy
  | orderBy
  /-- Offset and row count. -/
  | window
deriving DecidableEq, Repr

namespace Part

/-- The descriptions differ at most in the part. -/
def Differ : Part → Select → Select → Prop
  | .fields, s, s' => s' = { s with table := s'.table, alias? := s'.alias?, fields := s'.fields }
  | .filter, s, s' => s' = { s with filter? := s'.filter? }
  | .groupBy, s, s' => s' = { s with groupBy := s'.groupBy }
  | .orderBy, s, s' => s' = { s with orderBy := s'.orderBy }
  | .window, s, s' => s' = { s with limit? := s'.limit?, skip? := s'.skip? }

/-- The position of the line of the part. -/
def index (s : Select) : Part → Nat
  | .fields => 0
  | .filter => 1 + max 1 s.joins.length
  | .groupBy => 2 + max 1 s.joins.length
  | .orderBy => 3 + max 1 s.joins.length
  | .window => 4 + max 1 s.joins.length

/-- Behind the first line and those of the joins, a line is changed as one of those that follow. -/
theorem set_behind {α : Type} (first : α) (joins clauses : List α) (k : Nat) (a : α) :
    (first :: joins ++ clauses).set (k + 1 + joins.length) a =
      first :: joins ++ clauses.set k a := by
  rw [Nat.add_right_comm, List.cons_append, List.set_cons_succ,
    List.set_append_right _ _ (Nat.le_add_left _ _), Nat.add_sub_cancel, List.cons_append]

/-- Descriptions that differ in one part list the same but on its line. -/
theorem Differ.listings_eq {part : Part} {s s' : Select} (h : part.Differ s s') :
    ∃ l, s'.listings = s.listings.set (part.index s) l := by
  have hset (k : Nat) (l : Option Sql.Listing) := set_behind (some s.fieldListing) s.joinListings
    [Condition.filterListing? s.filter?, s.groupListing?, s.orderListing?, s.limitListing?] k l
  rw [length_joinListings] at hset
  cases part with
  | fields => exact ⟨some s'.fieldListing, by rw [h]; rfl⟩
  | filter => exact ⟨Condition.filterListing? s'.filter?, by rw [h]; exact (hset 0 _).symm⟩
  | groupBy => exact ⟨s'.groupListing?, by rw [h]; exact (hset 1 _).symm⟩
  | orderBy => exact ⟨s'.orderListing?, by rw [h]; exact (hset 2 _).symm⟩
  | window => exact ⟨s'.limitListing?, by rw [h]; exact (hset 3 _).symm⟩

end Part

/-! ## The result -/

/-- A select without line breaks is laid out in lines, and two of them that differ in one part of
their descriptions differ at most in its line. -/
theorem layout_fixed :
    (∀ (s : Select) (st : Statement), s.Unbroken → s.statement = .ok st →
      s.LaidOut (Sql.linesOf st.sql)) ∧
    ∀ (part : Part) (s s' : Select) (st st' : Statement), part.Differ s s' → s.Unbroken →
      s'.Unbroken → s.statement = .ok st → s'.statement = .ok st' →
      ∃ line, Sql.linesOf st'.sql = (Sql.linesOf st.sql).set (part.index s) line := by
  refine ⟨fun s st unbroken h => laidOut h unbroken, ?_⟩
  intro part s s' st st' hdiffer unbroken unbroken' h h'
  obtain ⟨l, hl⟩ := hdiffer.listings_eq
  refine ⟨Sql.line l, ?_⟩
  rw [linesOf_sql h unbroken, linesOf_sql h' unbroken', hl, List.map_set]

/-- The lines of a sorted select with a join and a vacuous filter, and the only line that another
filter changes. -/
theorem layout_fixed_of_vacuous_filter :
    let join : Join := { kind := .left, table := "u", on := [⟨"t.id", .eq, "u.id"⟩] }
    let s : Select := {
      table := "t", joins := [join], filter? := some (.group .or [])
      orderBy := [⟨"a", .ascending⟩] }
    let s' : Select := { s with filter? := some (.equal "b" (.int 1)) }
    let lines := ["SELECT * FROM t", "LEFT JOIN u ON t.id = u.id", "", "", "ORDER BY `a` ASC", ""]
    s.LaidOut lines ∧ ∃ st' line, s'.statement = .ok st' ∧
      Sql.linesOf st'.sql = lines.set 2 line := by
  intro join s s' lines
  have unbroken : s.Unbroken := by
    refine ⟨by decide, by decide, fun c hc => ?_, by decide, by decide⟩
    obtain rfl := Option.mem_some_iff.1 hc
    exact ⟨by decide, by decide⟩
  have unbroken' : s'.Unbroken := by
    refine ⟨by decide, by decide, fun c hc => ?_, by decide, by decide⟩
    obtain rfl := Option.mem_some_iff.1 hc
    exact ⟨by decide, by decide⟩
  have h : s.statement = .ok ⟨Sql.ofLines lines, []⟩ := by cbv
  have h' : s'.statement = .ok ⟨Sql.ofLines (lines.set 2 "WHERE `b` = ?"), [.int 1]⟩ := by cbv
  have hlines : Sql.linesOf (Sql.ofLines lines) = lines := by cbv
  obtain ⟨line, hline⟩ := layout_fixed.2 .filter s s' _ _ rfl unbroken unbroken' h h'
  rw [hlines] at hline
  exact ⟨hlines ▸ layout_fixed.1 s _ unbroken h, _, line, h', hline⟩

end Select

end RowQuery
