import Mathlib
import RowQuery.Proofs.Select.Window

/-!
# The range of row counts and offsets

A row count and an offset are numbers of 64 bits, but the greatest number that databases take is
that of 63 bits (`Select.unboundedLimit`). It stands for no limit behind an offset; the numbers of a
description are written as they are. So the last line of a statement is in the range of databases
exactly when the description is (`Select.window_range`). A description that is not can be brought
into the range without another answer (`Select.capped`), since no list of rows is that long.
-/

namespace RowQuery.Select

/-- A number that databases take, if there is one. -/
def InRange (n? : Option UInt64) : Prop := ∀ n ∈ n?, n.toNat ≤ unboundedLimit

/-- The number, or the greatest one that databases take if that is less. -/
def cap (n : UInt64) : UInt64 := if n.toNat ≤ unboundedLimit then n else .ofNat unboundedLimit

/-- The description with a window that databases take. -/
def capped (s : Select) : Select := s.withWindow (s.skip?.map cap) (s.limit?.map cap)

variable {s : Select} {st : Statement} {rows : List Row}

/-! ## Numbers in range -/

/-- The greatest number that databases take is one of 64 bits. -/
theorem toNat_ofNat_unboundedLimit : (UInt64.ofNat unboundedLimit).toNat = unboundedLimit :=
  UInt64.toNat_ofNat_of_lt' (by decide)

/-- What the number is brought to. -/
theorem toNat_cap (n : UInt64) : (cap n).toNat = min n.toNat unboundedLimit := by
  unfold cap
  split
  · next h => exact (Nat.min_eq_left h).symm
  · next h => rw [toNat_ofNat_unboundedLimit, Nat.min_eq_right (Nat.le_of_not_le h)]

/-- Numbers that are brought into the range are in it. -/
theorem inRange_map_cap (n? : Option UInt64) : InRange (n?.map cap) := by
  intro n hn
  obtain ⟨m, -, rfl⟩ := Option.mem_map.1 hn
  rw [toNat_cap]
  exact Nat.min_le_right _ _

/-- Numbers in the range stay as they are. -/
theorem map_cap_of_inRange {n? : Option UInt64} (h : InRange n?) : n?.map cap = n? := by
  cases n? with
  | none => rfl
  | some n => exact congrArg some (if_pos (h n rfl))

/-- An offset is in the range when the one that is skipped without one is. -/
theorem inRange_iff_getD (skip? : Option UInt64) :
    InRange skip? ↔ (skip?.getD 0).toNat ≤ unboundedLimit := by
  cases skip? with
  | none => simp [InRange]
  | some skip => simp [InRange]

/-- The numbers of the last line are in the range when those of the description are. -/
theorem limitNumbers_le_iff (s : Select) :
    (∀ n ∈ s.limitNumbers, n ≤ unboundedLimit) ↔ InRange s.limit? ∧ InRange s.skip? := by
  have hzero {skip : UInt64} (hskip : ¬ 0 < skip) : skip.toNat ≤ unboundedLimit := by
    rw [UInt64.lt_iff_toNat_lt, UInt64.toNat_zero, Nat.not_lt, Nat.le_zero] at hskip
    exact hskip ▸ Nat.zero_le _
  rw [inRange_iff_getD s.skip?]
  unfold limitNumbers
  generalize s.skip?.getD 0 = skip
  cases s.limit? with
  | some limit =>
    dsimp only
    split
    · simp [InRange, and_comm]
    · next hskip => simp [InRange, hzero hskip]
  | none =>
    dsimp only
    split
    · simp [InRange]
    · next hskip => simp [InRange, hzero hskip]

/-! ## Windows in range -/

/-- A window that is brought into the range cuts the same rows. -/
theorem window_cap {α : Type} {l : List α} (h : l.length ≤ unboundedLimit)
    (skip? limit? : Option UInt64) :
    window (skip?.map cap) (limit?.map cap) l = window skip? limit? l := by
  have hskip : ((skip?.map cap).getD 0).toNat = min (skip?.getD 0).toNat unboundedLimit := by
    cases skip? with
    | none => rfl
    | some skip => exact toNat_cap skip
  have hdrop : l.drop (min (skip?.getD 0).toNat unboundedLimit) = l.drop (skip?.getD 0).toNat :=
    List.drop_eq_drop_iff.2 (by omega)
  have hlength : (l.drop (skip?.getD 0).toNat).length ≤ unboundedLimit :=
    (List.drop_sublist _ l).length_le.trans h
  unfold window
  rw [hskip, hdrop]
  cases limit? with
  | none => rfl
  | some limit =>
    have htake := toNat_cap limit
    exact List.take_eq_take_iff.2 (by omega)

/-- The answer depends on what the window does to no more rows than there are. -/
theorem answer_congr_window {skip? limit? : Option UInt64}
    (h : ∀ l : List Row, l.length ≤ rows.length →
      window skip? limit? l = window s.skip? s.limit? l) :
    (s.withWindow skip? limit?).answer rows = s.answer rows := by
  unfold answer withWindow
  dsimp only
  split
  · rfl
  refine bind_congr_ok fun kept hkept => bind_congr_ok fun firsts hfirsts =>
    bind_congr_ok fun ordered hordered => ?_
  exact congrArg (List.mapM (Row.project s.fields)) (h _ (ordered_length_le hkept hfirsts hordered))

/-- Another window changes the last line of a statement only. -/
theorem statement_withWindow (h : s.statement = .ok st) (skip? limit? : Option UInt64) :
    ∃ st', (s.withWindow skip? limit?).statement = .ok st' ∧ st'.placedValues = st.placedValues ∧
      ∃ lines, st.sql = Sql.ofLines (lines ++ [limitLine s.limit? s.skip?]) ∧
        st'.sql = Sql.ofLines (lines ++ [limitLine limit? skip?]) := by
  obtain ⟨fieldsLine, filter, groupLine, orderLine, hfields, hfilter, hgroup, horder, rfl⟩ :=
    statement_eq_ok.1 h
  refine ⟨_, statement_eq_ok.2 ⟨fieldsLine, filter, groupLine, orderLine, hfields, hfilter, hgroup,
    horder, rfl⟩, rfl, fieldsLine :: s.joinLines ++ [filter.whereClause?.getD "", groupLine,
      orderLine], ?_, ?_⟩
  · simp
  · simp [withWindow, joinLines]

/-! ## Both sides -/

/-- How the window of a select fits into the range of databases. -/
structure WindowRange (s : Select) : Prop where
  /-- The numbers in the last line of the statement are in the range exactly when the row count and
  the offset of the description are. -/
  lastLine : ∀ st, s.statement = .ok st →
    ∃ numbers, Sql.limitNumbers? (Sql.lastLine st.sql) = some numbers ∧
      ((∀ n ∈ numbers, n ≤ unboundedLimit) ↔ InRange s.limit? ∧ InRange s.skip?)
  /-- A description in the range is not changed. -/
  capped_eq : InRange s.limit? → InRange s.skip? → s.capped = s
  /-- Brought into the range, the description is written alike up to the last line, of which the
  numbers are in the range. -/
  capped : ∀ st, s.statement = .ok st → ∃ st', s.capped.statement = .ok st' ∧
    st'.placedValues = st.placedValues ∧
    (∃ lines, st.sql = Sql.ofLines (lines ++ [limitLine s.limit? s.skip?]) ∧
      st'.sql = Sql.ofLines (lines ++ [limitLine (s.limit?.map cap) (s.skip?.map cap)])) ∧
    ∃ numbers, Sql.limitNumbers? (Sql.lastLine st'.sql) = some numbers ∧
      ∀ n ∈ numbers, n ≤ unboundedLimit
  /-- It has the same answer from every list of rows that databases can count. -/
  answer : ∀ rows, rows.length ≤ unboundedLimit → s.capped.answer rows = s.answer rows

/-- A window is written in the range of databases exactly when it is given there, and every window
can be brought into the range without another answer. -/
theorem window_range (s : Select) : s.WindowRange where
  lastLine st h := ⟨_, limitNumbers?_statement h, limitNumbers_le_iff s⟩
  capped_eq hlimit hskip := by
    rw [capped, map_cap_of_inRange hlimit, map_cap_of_inRange hskip]
    rfl
  capped st h := by
    obtain ⟨st', h', hvalues, lines, hsql, hsql'⟩ :=
      statement_withWindow h (s.skip?.map cap) (s.limit?.map cap)
    refine ⟨st', h', hvalues, ⟨lines, hsql, hsql'⟩, _, limitNumbers?_statement h', ?_⟩
    exact (limitNumbers_le_iff _).2 ⟨inRange_map_cap s.limit?, inRange_map_cap s.skip?⟩
  answer rows hrows := answer_congr_window fun l hl => window_cap (hl.trans hrows) _ _

/-- The greatest row count of 64 bits is written as it is, though databases do not take it, and is
answered. -/
theorem limit_out_of_range :
    let s : Select := { table := "t", limit? := some 18446744073709551615 }
    let st : Statement := ⟨"SELECT * FROM t\n\n\n\n\nLIMIT 18446744073709551615", []⟩
    s.statement = .ok st ∧
      Sql.limitNumbers? (Sql.lastLine st.sql) = some [18446744073709551615] ∧
      ¬ 18446744073709551615 ≤ unboundedLimit ∧ s.answer [.ofScalars [("a", .null)]] =
        .ok [.ofScalars [("a", .null)]] := by
  intro s st
  have h : s.statement = .ok st := by cbv
  exact ⟨h, limitNumbers?_statement h, by decide, by cbv⟩

/-- A row count and an offset that databases do not take, brought into their range. -/
theorem window_range_of_greatest :
    let s : Select := { table := "t", skip? := some 9223372036854775808, limit? := some 3 }
    let st : Statement := ⟨"SELECT * FROM t\n\n\n\n\nLIMIT 9223372036854775808, 3", []⟩
    s.statement = .ok st ∧ (∃ numbers, Sql.limitNumbers? (Sql.lastLine st.sql) = some numbers ∧
      ¬ ∀ n ∈ numbers, n ≤ unboundedLimit) ∧
      (∃ st', s.capped.statement = .ok st' ∧
        ∃ numbers, Sql.limitNumbers? (Sql.lastLine st'.sql) = some numbers ∧
          ∀ n ∈ numbers, n ≤ unboundedLimit) ∧
      ∀ row, s.capped.answer [row] = s.answer [row] := by
  intro s st
  have h : s.statement = .ok st := by cbv
  obtain ⟨numbers, hnumbers, hiff⟩ := (window_range s).lastLine st h
  obtain ⟨st', h', -, -, hrange⟩ := (window_range s).capped st h
  have hskip : ¬ InRange s.skip? := fun hall => absurd (hall _ rfl) (by decide)
  exact ⟨h, ⟨numbers, hnumbers, fun hall => hskip (hiff.1 hall).2⟩, ⟨st', h', hrange⟩,
    fun row => (window_range s).answer [row] (by simp [unboundedLimit])⟩

end RowQuery.Select
