import Mathlib
import RowQuery.Proofs.Select.Coherence
import RowQuery.Proofs.Text.Digits

/-!
# Windows of an answer

A window cuts an answer behind everything that can fail on it but the choice of fields, which is
made row by row. So a select that is answered without a window is answered with any, by the part of
the answer in the window, and pages follow each other without loss and without overlap. The last
line of a statement, read as databases read it (`Sql.limitNumbers?`), says the same window
(`Select.windows_agree`).
-/

namespace RowQuery

/-! ## Reading the last line -/

namespace Sql

/-- What stands behind the last line break of a text. -/
def lastLine (sql : String) : List Char := sql.toList.rtakeWhile (· != '\n')

/-- The number that a text of digits writes. -/
def number? (digits : List Char) : Option Nat :=
  if digits ≠ [] ∧ ∀ c ∈ digits, c.isDigit = true then some (Text.digitsValue digits) else none

/-- The numbers of `count` or `offset, count`. -/
def windowNumbers? (body : List Char) : Option (List Nat) :=
  match Text.pieces (· == ',') body with
  | [count] => do return [← number? count]
  | [offset, ' ' :: count] => do return [← number? offset, ← number? count]
  | _ => none

/-- The numbers of a line that is empty, `LIMIT count` or `LIMIT offset, count`. -/
def limitNumbers? (line : List Char) : Option (List Nat) :=
  if line = [] then some [] else ("LIMIT ".toList.isPrefixOf? line).bind windowNumbers?

/-- A line without line breaks is the last of lines that it ends. -/
theorem lastLine_ofLines {lines : List String} {line : String} (hne : lines ≠ [])
    (h : '\n' ∉ line.toList) : lastLine (ofLines (lines ++ [line])) = line.toList := by
  have hbefore : ∃ before, ofLines (lines ++ [line]) = before ++ "\n" ++ line := by
    induction lines with
    | nil => exact absurd rfl hne
    | cons first lines ih =>
      cases lines with
      | nil => exact ⟨first, rfl⟩
      | cons second lines =>
        obtain ⟨before, hbefore⟩ := ih (List.cons_ne_nil _ _)
        refine ⟨first ++ "\n" ++ before, ?_⟩
        unfold ofLines at hbefore ⊢
        rw [List.cons_append, List.cons_append, String.intercalate_cons_cons, ← List.cons_append,
          hbefore]
        simp only [String.append_assoc]
  obtain ⟨before, hbefore⟩ := hbefore
  have hline : ∀ c ∈ line.toList.reverse, (c != '\n') = true := fun c hc =>
    bne_iff_ne.2 fun heq => h (heq ▸ List.mem_reverse.1 hc)
  rw [lastLine, hbefore, String.toList_append, String.toList_append, List.rtakeWhile,
    List.reverse_append, List.takeWhile_append_of_pos hline]
  simp

/-- The digits of a number are read as the number. -/
theorem number?_toDigits (n : Nat) : number? (Nat.toDigits 10 n) = some n := by
  rw [number?, if_pos ⟨Nat.toDigits_ne_nil, Text.isDigit_of_mem_toDigits⟩, Text.digitsValue_toDigits]

/-- The digits of a number hold no other characters. -/
theorem not_mem_toDigits {c : Char} (h : c.isDigit = false) (n : Nat) : c ∉ Nat.toDigits 10 n :=
  fun hc => Bool.false_ne_true (h.symm.trans (Text.isDigit_of_mem_toDigits c hc))

/-- Behind its word the line is read as its numbers. -/
theorem limitNumbers?_append (body : String) :
    limitNumbers? ("LIMIT " ++ body).toList = windowNumbers? body.toList := by
  have hbody : "LIMIT ".toList.isPrefixOf? ("LIMIT " ++ body).toList = some body.toList :=
    List.isPrefixOf?_eq_some_iff_append_eq.2 String.toList_append.symm
  rw [limitNumbers?, if_neg (by simp), hbody, Option.bind_some]

/-- A row count is read as itself. -/
theorem windowNumbers?_count (count : Nat) :
    windowNumbers? (toString count).toList = some [count] := by
  have hpieces : Text.pieces (· == ',') (Nat.toDigits 10 count) = [Nat.toDigits 10 count] :=
    Text.pieces_eq_singleton fun c hc => beq_eq_false_iff_ne.2 fun heq =>
      not_mem_toDigits (by decide) count (heq ▸ hc)
  rw [Nat.toString_eq_ofList_toDigits, String.toList_ofList, windowNumbers?, hpieces]
  simp only [number?_toDigits]
  rfl

/-- An offset and a row count are read as themselves. -/
theorem windowNumbers?_offset (offset count : Nat) :
    windowNumbers? (toString offset ++ ", " ++ toString count).toList = some [offset, count] := by
  have htext : (toString offset ++ ", " ++ toString count).toList =
      [','].intercalate [Nat.toDigits 10 offset, ' ' :: Nat.toDigits 10 count] := by
    simp [Nat.repr_eq_ofList_toDigits, List.intercalate_cons_cons]
  have hpieces : Text.pieces (· == ',') (toString offset ++ ", " ++ toString count).toList =
      [Nat.toDigits 10 offset, ' ' :: Nat.toDigits 10 count] := by
    rw [htext]
    refine Text.pieces_intercalate (by decide) (fun part hpart c hc => ?_) (List.cons_ne_nil _ _)
    refine beq_eq_false_iff_ne.2 fun heq => ?_
    subst heq
    rcases List.mem_cons.1 hpart with rfl | hpart
    · exact not_mem_toDigits (by decide) offset hc
    · rw [List.mem_singleton.1 hpart] at hc
      exact not_mem_toDigits (by decide) count (List.mem_of_ne_of_mem (by decide) hc)
  rw [windowNumbers?, hpieces]
  simp only [number?_toDigits]
  rfl

end Sql

/-! ## The last line of a select -/

namespace Select

variable {s : Select} {st : Statement} {rows all : List Row}

/-- The line of offset and row count is read as the numbers of the window. -/
theorem limitNumbers?_limitLine (s : Select) :
    Sql.limitNumbers? (limitLine s.limit? s.skip?).toList = some s.limitNumbers := by
  have htwo (offset count : Nat) :
      Sql.limitNumbers? ("LIMIT " ++ toString offset ++ ", " ++ toString count).toList =
        some [offset, count] := by
    have htext : "LIMIT " ++ toString offset ++ ", " ++ toString count =
        "LIMIT " ++ (toString offset ++ ", " ++ toString count) := by
      simp only [String.append_assoc]
    rw [htext, Sql.limitNumbers?_append, Sql.windowNumbers?_offset]
  unfold limitLine limitNumbers
  dsimp only
  cases s.limit? with
  | some limit =>
    dsimp only
    split
    · exact htwo _ _
    · rw [Sql.limitNumbers?_append, Sql.windowNumbers?_count]
  | none =>
    dsimp only
    split
    · exact htwo _ _
    · rfl

/-- The line of offset and row count has no line break. -/
theorem not_mem_limitLine (limit? skip? : Option UInt64) :
    '\n' ∉ (limitLine limit? skip?).toList := by
  have hnumber (n : Nat) : '\n' ∉ Nat.toDigits 10 n := Sql.not_mem_toDigits (by decide) n
  unfold limitLine
  cases limit? with
  | some limit =>
    dsimp only
    split <;> simp [Nat.repr_eq_ofList_toDigits, hnumber]
  | none =>
    dsimp only
    split <;> simp [Nat.repr_eq_ofList_toDigits, hnumber]

/-- The last line of a statement is read as the numbers of the window. -/
theorem limitNumbers?_statement (h : s.statement = .ok st) :
    Sql.limitNumbers? (Sql.lastLine st.sql) = some s.limitNumbers := by
  obtain ⟨fieldsLine, filter, groupLine, orderLine, -, -, -, -, rfl⟩ := statement_eq_ok.1 h
  have hlines : fieldsLine :: s.joinLines ++ [filter.whereClause?.getD "", groupLine, orderLine,
      limitLine s.limit? s.skip?] = (fieldsLine :: s.joinLines ++ [filter.whereClause?.getD "",
        groupLine, orderLine]) ++ [limitLine s.limit? s.skip?] := by
    simp
  rw [hlines, Sql.lastLine_ofLines (by simp) (not_mem_limitLine _ _), limitNumbers?_limitLine]

/-! ## Windows -/

/-- The description with another window. -/
def withWindow (s : Select) (skip? limit? : Option UInt64) : Select :=
  { s with skip? := skip?, limit? := limit? }

/-- A window of the results of a step is the results of the step in the window. -/
theorem mapM_window {ε α β : Type} {f : α → Except ε β} {l : List α} {r : List β}
    (h : l.mapM f = .ok r) (skip? limit? : Option UInt64) :
    (window skip? limit? l).mapM f = .ok (window skip? limit? r) := by
  have hsteps := mapM_eq_ok.1 h
  rw [mapM_eq_ok]
  unfold window
  cases limit? with
  | some limit => exact List.forall₂_take _ (List.forall₂_drop _ hsteps)
  | none => exact List.forall₂_drop _ hsteps

/-- What is answered without a window is answered with any, by the part in the window. -/
theorem answer_withWindow (h : (s.withWindow none none).answer rows = .ok all)
    (skip? limit? : Option UInt64) :
    (s.withWindow skip? limit?).answer rows = .ok (window skip? limit? all) := by
  obtain ⟨hjoins, kept, hkept, firsts, hfirsts, ordered, hordered, hall⟩ := answer_eq_ok.1 h
  exact answer_eq_ok.2 ⟨hjoins, kept, hkept, firsts, hfirsts, ordered, hordered,
    mapM_window hall skip? limit?⟩

/-! ## Pages -/

/-- A page of as many rows, behind as many pages. -/
def page (s : Select) (size : UInt64) (number : Nat) : Select :=
  s.withWindow (some (.ofNat (number * size.toNat))) (some size)

/-- Pieces of one length that follow each other are the list up to their end. -/
theorem flatten_pages {α : Type} (l : List α) (size count : Nat) :
    ((List.range count).map fun k => (l.drop (k * size)).take size).flatten =
      l.take (count * size) := by
  induction count with
  | zero => simp
  | succ count ih =>
    rw [List.range_succ, List.map_append, List.flatten_append, ih, Nat.succ_mul, List.take_add]
    simp

/-- A page is answered by its rows. -/
theorem answer_page (h : (s.withWindow none none).answer rows = .ok all) {size : UInt64} {k : Nat}
    (hk : k * size.toNat < 2 ^ 64) :
    (s.page size k).answer rows = .ok ((all.drop (k * size.toNat)).take size.toNat) := by
  have hskip : (UInt64.ofNat (k * size.toNat)).toNat = k * size.toNat :=
    UInt64.toNat_ofNat_of_lt' hk
  rw [page, answer_withWindow h, window, Option.getD_some, hskip]

/-- The answers of pages that can be asked for are the answer up to their end. -/
theorem answer_pages (h : (s.withWindow none none).answer rows = .ok all) {size : UInt64}
    {count : Nat} (hcount : ∀ k < count, k * size.toNat < 2 ^ 64) :
    ∃ pages, (List.range count).mapM (fun k => (s.page size k).answer rows) = .ok pages ∧
      pages.flatten = all.take (count * size.toNat) := by
  refine ⟨_, mapM_eq_ok.2 ?_, flatten_pages all size.toNat count⟩
  rw [List.forall₂_map_right_iff, List.forall₂_same]
  exact fun k hk => answer_page h (hcount k (List.mem_range.1 hk))

/-- There are as many pages as it takes to hold all rows, and they can be asked for. -/
theorem exists_count {length size : Nat} (hsize : 0 < size) (hlength : length ≤ 2 ^ 64) :
    ∃ count, length ≤ count * size ∧ ∀ k < count, k * size < 2 ^ 64 := by
  cases length with
  | zero => exact ⟨0, Nat.zero_le _, fun k hk => absurd hk (Nat.not_lt_zero k)⟩
  | succ last =>
    refine ⟨last / size + 1, ?_, fun k hk => ?_⟩
    · rw [Nat.mul_comm]
      exact Nat.lt_mul_div_succ last hsize
    · have hle : k * size ≤ last :=
        (Nat.mul_le_mul_right size (Nat.le_of_lt_succ hk)).trans (Nat.div_mul_le_self last size)
      omega

/-! ## Both sides -/

/-- What the windows of a select do, whether it is answered from rows or written as a statement. -/
structure FaithfulWindows (s : Select) : Prop where
  /-- What is answered without a window is answered with every window, by the rows from the offset
  on, up to the row count. -/
  window : ∀ rows all, (s.withWindow none none).answer rows = .ok all → ∀ skip limit : UInt64,
    (s.withWindow (some skip) (some limit)).answer rows =
      .ok ((all.drop skip.toNat).take limit.toNat)
  /-- The pages that can be asked for follow each other without loss and without overlap. -/
  pages : ∀ rows all, (s.withWindow none none).answer rows = .ok all →
    ∀ (size : UInt64) (count : Nat), (∀ k < count, k * size.toNat < 2 ^ 64) →
    ∃ pages, (List.range count).mapM (fun k => (s.page size k).answer rows) = .ok pages ∧
      pages.flatten = all.take (count * size.toNat)
  /-- Pages that are not empty hold all rows in the end, and those behind them none. -/
  allPages : ∀ rows all, (s.withWindow none none).answer rows = .ok all → ∀ size : UInt64,
    0 < size → all.length ≤ 2 ^ 64 →
    ∃ count pages, (List.range count).mapM (fun k => (s.page size k).answer rows) = .ok pages ∧
      pages.flatten = all ∧
      ∀ k, count ≤ k → k * size.toNat < 2 ^ 64 → (s.page size k).answer rows = .ok []
  /-- The last line of the statement asks for the window that is answered. -/
  lastLine : ∀ skip? limit? st, (s.withWindow skip? limit?).statement = .ok st →
    ∃ numbers, Sql.limitNumbers? (Sql.lastLine st.sql) = some numbers ∧
      (∀ l : List Row, l.length < 2 ^ 63 → cut numbers l = Select.window skip? limit? l) ∧
      ∀ rows all, (s.withWindow none none).answer rows = .ok all → all.length < 2 ^ 63 →
        (s.withWindow skip? limit?).answer rows = .ok (cut numbers all)

/-- Windows cut the answer without a window, pages follow each other, and the last line of the
statement asks for the same window. -/
theorem windows_agree (s : Select) : s.FaithfulWindows where
  window rows all h skip limit := answer_withWindow h (some skip) (some limit)
  pages rows all h size count hcount := answer_pages h hcount
  allPages rows all h size hsize hlength := by
    have hpositive : 0 < size.toNat := UInt64.lt_iff_toNat_lt.1 hsize
    obtain ⟨count, hall, hcount⟩ := exists_count hpositive hlength
    obtain ⟨pages, hpages, hflatten⟩ := answer_pages h hcount
    refine ⟨count, pages, hpages, hflatten.trans (List.take_of_length_le hall), fun k hk hskip => ?_⟩
    have hend : all.length ≤ k * size.toNat := hall.trans (Nat.mul_le_mul_right _ hk)
    rw [answer_page h hskip, List.drop_of_length_le hend, List.take_nil]
  lastLine skip? limit? st h := by
    have hcut (l : List Row) (hl : l.length < 2 ^ 63) :
        cut (s.withWindow skip? limit?).limitNumbers l = Select.window skip? limit? l :=
      (window_eq_cut (s.withWindow skip? limit?) (Nat.le_of_lt_succ hl)).symm
    exact ⟨_, limitNumbers?_statement h, hcut, fun rows all hall hlength =>
      (answer_withWindow hall skip? limit?).trans (congrArg Except.ok (hcut all hlength).symm)⟩

/-- A second page of two out of three sorted rows, and the line of an offset without a row count. -/
theorem windows_agree_of_three_rows :
    let s : Select := { table := "t", fields := ["a"], orderBy := [⟨"a", .descending⟩] }
    let row (i : Int64) := Row.ofScalars [("a", .int i)]
    let rows := [row 2, row 3, row 1]
    (s.withWindow (some 2) (some 2)).answer rows = .ok [row 1] ∧
      ∃ numbers, Sql.limitNumbers? "LIMIT 1, 9223372036854775807".toList = some numbers ∧
        (s.withWindow (some 1) none).answer rows = .ok (cut numbers [row 3, row 2, row 1]) := by
  intro s row rows
  have hall : (s.withWindow none none).answer rows = .ok [row 3, row 2, row 1] := by cbv
  have hstatement : (s.withWindow (some 1) none).statement = .ok {
      sql := "SELECT `a` FROM t\n\n\n\nORDER BY `a` DESC\nLIMIT 1, 9223372036854775807"
      placedValues := [] } := by cbv
  obtain ⟨numbers, hnumbers, -, hanswer⟩ := (windows_agree s).lastLine _ _ _ hstatement
  exact ⟨(windows_agree s).window rows _ hall 2 2, numbers, hnumbers, hanswer rows _ hall (by decide)⟩

end Select

end RowQuery
