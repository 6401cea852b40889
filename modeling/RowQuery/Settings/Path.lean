import RowQuery.Text.LowerCase
import RowQuery.Text.Numeral

/-!
# Paths in settings

A key of a layer of settings is read as a path if it can be: the name of a value, and steps from
there to a part of it, a dot before a key and brackets around a position (`Path.read?`). Any other
key is a name as a whole (`Path.ofKey`). Names and keys are kept in lower case. No setting looks
into a list, so a step to an item does not keep its position.
-/

namespace RowQuery.Settings

/-- A step from a value to a part of it. -/
inductive Step where
  /-- To the value of a key. -/
  | key (name : String)
  /-- To an item of a list. -/
  | item
deriving DecidableEq, Repr

/-- The name of a value, and the steps from there to a part of it. -/
structure Path where
  name : String
  steps : List Step
deriving DecidableEq, Repr

namespace Path

/-- A character of a name in a path. -/
def isNameChar (c : Char) : Bool := c.isAlphanum || c == '_' || c == '-' || c == ' '

/-- Reads a name. -/
def readName (s : List Char) : Option (String × List Char) :=
  match s.takeWhile isNameChar with
  | [] => none
  | name => some (Text.lower (String.ofList name), s.dropWhile isNameChar)

/-- A character that may stand around a position. -/
def isPadding (c : Char) : Bool := c == ' ' || c == '\t'

/-- Whether a text writes an integer of 64 bits. -/
def isPosition (s : List Char) : Bool :=
  let (negative, digits) := match s with
    | '-' :: digits => (true, digits)
    | digits => (false, digits)
  let bound := if negative then 9223372036854775808 else 9223372036854775807
  !digits.isEmpty && digits.all Char.isDigit && Text.digitsValue digits ≤ bound

/-- What follows a position and its closing bracket. -/
def afterPosition? (s : List Char) : Option (List Char) :=
  let s := s.dropWhile isPadding
  let inside (c : Char) : Bool := c == '-' || c.isDigit
  match (s.dropWhile inside).dropWhile isPadding with
  | ']' :: rest => if isPosition (s.takeWhile inside) then some rest else none
  | _ => none

/-- Reads steps up to the end. The fuel bounds their number. -/
def readSteps (fuel : Nat) (s : List Char) : Option (List Step) :=
  match fuel, s with
  | _, [] => some []
  | fuel + 1, '.' :: s => do
    let (name, rest) ← readName s
    let steps ← readSteps fuel rest
    return .key name :: steps
  | fuel + 1, '[' :: s => do
    let rest ← afterPosition? s
    let steps ← readSteps fuel rest
    return .item :: steps
  | _, _ => none

/-- Reads a path. -/
def read? (key : String) : Option Path := do
  let (name, rest) ← readName key.toList
  let steps ← readSteps rest.length rest
  return { name, steps }

/-- The path that a key stands for. -/
def ofKey (key : String) : Path := (read? key).getD { name := Text.lower key, steps := [] }

end Path

end RowQuery.Settings
