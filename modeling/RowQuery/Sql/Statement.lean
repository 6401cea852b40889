import RowQuery.Scalar.Basic

/-!
# Statements

A `Statement` is SQL text with a marker `?` for every value and the values its markers stand for,
from left to right. A clause is a line of the text; a clause without content is an empty line.
-/

namespace RowQuery

/-- SQL text and the values bound to its markers. -/
structure Statement where
  /-- The text. -/
  sql : String
  /-- The values of the markers, from left to right. -/
  placedValues : List Scalar
deriving DecidableEq, Repr

namespace Sql

/-- The lines of a text, one below the other. -/
def ofLines (lines : List String) : String := "\n".intercalate lines

/-- As many markers between commas. -/
def markers (n : Nat) : String := ", ".intercalate (List.replicate n "?")

/-- A table with its alias, if it has one. -/
def tableReference (table : String) (alias? : Option String) : String :=
  match alias? with
  | some name => table ++ " AS " ++ name
  | none => table

end Sql

end RowQuery
