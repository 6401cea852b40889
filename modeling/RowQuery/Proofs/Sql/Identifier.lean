import RowQuery.Sql.Identifier
import RowQuery.Proofs.Steps
import RowQuery.Proofs.Text.Pieces

/-!
# Quoted names

When a name can be quoted and what its text is then (`quoteIdentifier_eq_ok`, `quoted`), and the same
for a list of names (`quoteList_eq_ok`).
-/

namespace RowQuery.Sql

/-- A name with its dotted segments between backquotes. -/
def quoted (name : String) : String :=
  ".".intercalate ((Text.pieces (· == '.') name.toList).map fun s => String.ofList (quoteSegment s))

/-- A name is quoted when it holds no backquote. -/
theorem quoteIdentifier_eq_ok {name s : String} :
    quoteIdentifier name = .ok s ↔ backquote ∉ name.toList ∧ s = quoted name := by
  unfold quoteIdentifier
  split
  · next h => simp [List.contains_iff_mem.1 h]
  · next h =>
    have hb : backquote ∉ name.toList := fun hm => h (List.contains_iff_mem.2 hm)
    simp [hb, quoted, eq_comm]

/-- A list of names is quoted when each of them is. -/
theorem quoteList_eq_ok {names : List String} {s : String} :
    quoteList names = .ok s ↔
      (∀ name ∈ names, backquote ∉ name.toList) ∧ s = ", ".intercalate (names.map quoted) := by
  unfold quoteList
  rw [bind_eq_ok]
  constructor
  · rintro ⟨texts, htexts, hs⟩
    cases hs
    obtain ⟨rfl, hquoted⟩ :=
      mapM_eq_map htexts fun _ _ hname => (quoteIdentifier_eq_ok.1 hname).2.symm
    exact ⟨fun name hname => (quoteIdentifier_eq_ok.1 (hquoted name hname)).1, rfl⟩
  · rintro ⟨hbackquote, rfl⟩
    have hquoted : List.Forall₂ (fun name text => quoteIdentifier name = .ok text) names
        (names.map quoted) := List.forall₂_map_right_iff.2 (List.forall₂_same.2 fun name hname =>
      quoteIdentifier_eq_ok.2 ⟨hbackquote name hname, rfl⟩)
    exact ⟨_, mapM_eq_ok.2 hquoted, rfl⟩

/-- The text of a name that is quoted is not empty. -/
theorem quoted_ne_empty (name : String) : quoted name ≠ "" := by
  intro h
  have hpieces := Text.length_pieces (· == '.') name.toList
  rw [quoted] at h
  cases hp : Text.pieces (· == '.') name.toList with
  | nil => simp [hp] at hpieces
  | cons first rest =>
    have hfirst : String.ofList (quoteSegment first) ≠ "" := by
      unfold quoteSegment
      split
      · next hs => simp [hs]
      · simp
    rw [hp, List.map_cons] at h
    cases rest with
    | nil => exact hfirst (by simpa using h)
    | cons next rest =>
      rw [List.map_cons, String.intercalate_cons_cons] at h
      simp at h

end RowQuery.Sql
