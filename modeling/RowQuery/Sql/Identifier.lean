import RowQuery.Error

/-!
# Quoted identifiers

A name is written with its dotted segments between backquotes, a segment `*` as it is
(`quoteIdentifier`). A name that holds a backquote cannot be written and is refused, so a backquote
in the text always opens or closes a segment.
-/

namespace RowQuery.Sql

/-- The character around a quoted segment. -/
def backquote : Char := '\x60'

/-- A segment of a name as it is written. -/
def quoteSegment (segment : List Char) : List Char :=
  if segment = ['*'] then segment else backquote :: (segment ++ [backquote])

/-- A name as it is written, unless it holds a backquote. -/
def quoteIdentifier (name : String) : Except QueryError String :=
  if name.toList.contains backquote then .error (.unsupportedIdentifier name)
  else
    let segments := Text.pieces (· == '.') name.toList
    .ok (".".intercalate (segments.map fun segment => String.ofList (quoteSegment segment)))

/-- The names as they are written, between commas. -/
def quoteList (names : List String) : Except QueryError String := do
  let quoted ← names.mapM quoteIdentifier
  return ", ".intercalate quoted

end RowQuery.Sql
