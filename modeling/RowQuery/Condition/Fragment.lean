import RowQuery.Condition.Basic
import RowQuery.Sql.Identifier
import RowQuery.Sql.Statement

/-!
# Conditions as SQL

`Condition.fragment` writes a condition as SQL with a marker for every value. A group writes its
members that are not empty, each between parentheses if it is itself a group of several; a group
that is left with one member is written as that member, and a group without any as nothing. A
condition below more groups than `Condition.maxDepth` is refused.
-/

namespace RowQuery

/-- A condition as SQL. -/
structure Fragment where
  /-- The text. -/
  sql : String := ""
  /-- The values of the markers, from left to right. -/
  values : List Scalar := []
  /-- Whether the text needs parentheses beside another. -/
  needsParens : Bool := false
deriving DecidableEq, Repr

namespace Fragment

/-- Whether there is no text. -/
def isEmpty (f : Fragment) : Bool := f.sql.isEmpty

/-- The text as it stands beside others. -/
def wrapped (f : Fragment) : String := if f.needsParens then "(" ++ f.sql ++ ")" else f.sql

/-- The members of a group as one fragment. -/
def join (conjunction : Conjunction) (members : List Fragment) : Fragment :=
  match members.filter (! ·.isEmpty) with
  | [] => {}
  | [member] => member
  | several =>
    { sql := (" " ++ conjunction.text ++ " ").intercalate (several.map wrapped)
      values := several.flatMap values
      needsParens := true }

/-- The clause `WHERE` of a fragment, unless it is empty. -/
def whereClause? (f : Fragment) : Option String :=
  if f.isEmpty then none else some ("WHERE " ++ f.wrapped)

end Fragment

/-- A comparison as SQL. -/
def Comparison.fragment (c : Comparison) : Except QueryError Fragment := do
  let column ← Sql.quoteIdentifier c.column
  if c.operator.takesList then
    let values ← c.listOperand
    return {
      sql := column ++ " " ++ c.operator.text ++ " (" ++ Sql.markers values.length ++ ")"
      values }
  else
    let value ← c.scalarOperand
    return { sql := column ++ " " ++ c.operator.text ++ " ?", values := [value] }

namespace Condition

mutual

/-- The SQL of a condition that stands in `depth` groups. -/
def fragment (depth : Nat) : Condition → Except QueryError Fragment
  | .raw sql values =>
    if maxDepth < depth then .error (.conditionTooDeep maxDepth)
    else .ok { sql := "(" ++ sql ++ ")", values }
  | .compare c => if maxDepth < depth then .error (.conditionTooDeep maxDepth) else c.fragment
  | .group conjunction children =>
    if maxDepth < depth then .error (.conditionTooDeep maxDepth)
    else (fragments (depth + 1) children).map (.join conjunction)

/-- The SQL of the members of a group, from left to right. -/
def fragments (depth : Nat) : List Condition → Except QueryError (List Fragment)
  | [] => .ok []
  | c :: rest => do
    let f ← fragment depth c
    let fs ← fragments depth rest
    return f :: fs

end

/-- The SQL of a filter, which may be absent. -/
def filterFragment : Option Condition → Except QueryError Fragment
  | some c => c.fragment 0
  | none => .ok {}

end Condition

end RowQuery
