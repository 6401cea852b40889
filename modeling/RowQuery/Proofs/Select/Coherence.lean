import Mathlib
import RowQuery.Proofs.Condition.Verdict
import RowQuery.Proofs.Select.Decoding
import RowQuery.Proofs.Select.Reference

/-!
# Selects with the same SQL have the same answer

A database has one answer to one statement, so selects that are written alike should be answered
alike. The parts of a select that show in its statement are all that its answer depends on: the
filter decides as its normal form does, and the window cuts as its numbers say (`Select.cut`), as
long as there are no more rows than the row count that stands for no limit. So selects with the same
statement have the same answer, or fail on the same row (`Select.answer_of_statement`).

The exception is a star as the only field: it is written as the list of no fields is, but answered
as the name of a column (`Select.star_answers_differ`).
-/

namespace RowQuery.Select

variable {s s' : Select} {st : Statement} {rows : List Row}

/-! ## Phases -/

/-- Filters that decide every row alike leave the same rows. -/
theorem filtered_congr {filter? filter?' : Option Condition}
    (h : ∀ row, Condition.keeps filter? row = Condition.keeps filter?' row) (rows : List Row) :
    filtered filter? rows = filtered filter?' rows := by
  induction rows with
  | nil => rfl
  | cons row rows ih => rw [filtered, filtered, h, ih]

/-- The part of a list that the numbers of a window stand for. -/
def cut {α : Type} : List Nat → List α → List α
  | [limit], l => l.take limit
  | [skip, limit], l => (l.drop skip).take limit
  | _, l => l

/-- A window of no more rows than databases count is what its numbers stand for. -/
theorem window_eq_cut {α : Type} (s : Select) {l : List α} (h : l.length ≤ unboundedLimit) :
    window s.skip? s.limit? l = cut s.limitNumbers l := by
  have hzero {skip : UInt64} (hskip : ¬ 0 < skip) : skip.toNat = 0 := by
    rw [UInt64.lt_iff_toNat_lt] at hskip
    simpa using hskip
  unfold window limitNumbers
  generalize s.skip?.getD 0 = skip
  cases s.limit? with
  | some limit =>
    dsimp only
    split
    · rfl
    · next hskip => rw [hzero hskip, List.drop_zero, cut]
  | none =>
    dsimp only
    split
    · have hlength : (l.drop skip.toNat).length ≤ unboundedLimit :=
        (List.drop_sublist _ l).length_le.trans h
      rw [cut, List.take_of_length_le hlength]
    · next hskip =>
      rw [hzero hskip, List.drop_zero]
      rfl

/-! ## Answers -/

/-- Selects of one table without joins and raw fragments that have the same statement have the same
answer from fewer than 2^63 rows, unless they differ in a star: both list the same rows, or both fail
on the same thing. -/
theorem answer_of_statement (htable : s.table = s'.table) (halias : s.alias? = s'.alias?)
    (hjoins : s.joins = []) (hjoins' : s'.joins = []) (free : ∀ c ∈ s.filter?, c.RawFree)
    (free' : ∀ c ∈ s'.filter?, c.RawFree) (h : s.statement = .ok st) (h' : s'.statement = .ok st)
    (hstar : ¬ DifferInStar s s') (hrows : rows.length < 2 ^ 63) :
    s.answer rows = s'.answer rows := by
  have parts := parts_of_statement htable halias hjoins hjoins' free free' h h'
  have hfields : s.fields = s'.fields := parts.fields.resolve_right hstar
  obtain ⟨-, f, -, -, -, hf, -⟩ := statement_eq_ok.1 h
  obtain ⟨-, f', -, -, -, hf', -⟩ := statement_eq_ok.1 h'
  have hkeeps (row : Row) : Condition.keeps s.filter? row = Condition.keeps s'.filter? row := by
    have hform : s.filter?.bind Condition.normalForm = s'.filter?.bind Condition.normalForm :=
      parts.filterForm
    rw [Condition.keeps_eq_verdict hf, Condition.keeps_eq_verdict hf', hform]
  rw [answer_of_joins_nil hjoins, answer_of_joins_nil hjoins', ← filtered_congr hkeeps,
    ← parts.groupBy, ← parts.orderBy, ← hfields]
  refine bind_congr_ok fun kept hkept => bind_congr_ok fun firsts hfirsts =>
    bind_congr_ok fun ordered hordered => ?_
  have hlength : ordered.length ≤ unboundedLimit := by
    have hle := ordered_length_le hkept hfirsts hordered
    unfold unboundedLimit
    omega
  rw [window_eq_cut s hlength, window_eq_cut s' hlength, parts.limitNumbers]

/-- Two selects that differ in a group that says nothing, and in a row count that is no limit, are
written alike and have one answer. -/
theorem answer_of_statement_of_redundant_parts :
    let s : Select := {
      table := "t", fields := ["b"], skip? := some 1
      filter? := some (.group .or [.group .and [], .compareWith "a" .gt (.int 1)]) }
    let s' : Select := {
      table := "t", fields := ["b"], skip? := some 1, limit? := some 9223372036854775807
      filter? := some (.compareWith "a" .gt (.int 1)) }
    let st : Statement := {
      sql := "SELECT `b` FROM t\n\nWHERE `a` > ?\n\n\nLIMIT 1, 9223372036854775807"
      placedValues := [.int 1] }
    let rows := [Row.ofScalars [("a", .int 2), ("b", .null)], .ofScalars [("a", .null)],
      .ofScalars [("b", .text "x"), ("a", .int 3)]]
    s.statement = .ok st ∧ s'.statement = .ok st ∧ s.answer rows = s'.answer rows := by
  intro s s' st rows
  have h : s.statement = .ok st := by cbv
  have h' : s'.statement = .ok st := by cbv
  have free : ∀ c ∈ s.filter?, c.RawFree := by
    simp [s, Condition.RawFree, Condition.leaves, Condition.memberLeaves, Condition.compareWith]
  have free' : ∀ c ∈ s'.filter?, c.RawFree := by
    simp [s', Condition.RawFree, Condition.leaves, Condition.compareWith]
  have hstar : ¬ DifferInStar s s' := by simp [DifferInStar, s]
  exact ⟨h, h', answer_of_statement rfl rfl rfl rfl free free' h h' hstar (by decide)⟩

/-- Selects that differ in a star are written alike, but one of them asks every row for a column of
that name. -/
theorem star_answers_differ :
    let s : Select := { table := "t" }
    let s' : Select := { table := "t", fields := ["*"] }
    let rows := [Row.ofScalars [("a", .int 1)]]
    DifferInStar s s' ∧ s.statement = .ok { sql := "SELECT * FROM t\n\n\n\n\n", placedValues := [] } ∧
      s'.statement = s.statement ∧ s.answer rows = .ok rows ∧
      s'.answer rows = .error (.missingField "*") := by
  intro s s' rows
  have hstatement : s.statement = .ok { sql := "SELECT * FROM t\n\n\n\n\n", placedValues := [] } := by
    cbv
  have hstatement' : s'.statement = s.statement := by cbv
  have hanswer : s.answer rows = .ok rows := by cbv
  have hanswer' : s'.answer rows = .error (.missingField "*") := by cbv
  exact ⟨.inl ⟨rfl, rfl⟩, hstatement, hstatement', hanswer, hanswer'⟩

end RowQuery.Select
