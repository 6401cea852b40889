/-!
# Runs of characters that change case alike

A change of case takes most characters to themselves and moves the others in runs. `Text.move` takes
a character to where the first run that covers it moves it.
-/

namespace RowQuery.Text

/-- Characters that change case alike: every `step`-th from `first` to `last`, each moved by
`delta`. -/
structure CaseRun where
  /-- The first code point. -/
  first : Nat
  /-- The last code point. -/
  last : Nat
  /-- The distance between code points. -/
  step : Nat
  /-- What is added to a code point. -/
  delta : Int
deriving DecidableEq, Repr

/-- Whether a code point belongs to the run. -/
def CaseRun.covers (r : CaseRun) (n : Nat) : Bool :=
  r.first ≤ n && n ≤ r.last && (n - r.first) % r.step == 0

/-- The character in the place of another. -/
def move (runs : List CaseRun) (c : Char) : Char :=
  match runs.find? (·.covers c.toNat) with
  | some r => Char.ofNat ((c.toNat : Int) + r.delta).toNat
  | none => c

end RowQuery.Text
