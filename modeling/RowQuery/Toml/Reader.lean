import RowQuery.Json.Reader
import RowQuery.Toml.Basic
import RowQuery.Toml.DateTime

/-!
# Reading TOML

`Toml.read?` reads a text. The readers of the parts return what they read and the rest of the text.
Dates and times become texts. Every other part but strings and brackets ends where its characters
end, so numbers and the words `true`, `false`, `inf` and `nan` are judged as whole tokens
(`Toml.scalarOfToken?`).
-/

namespace RowQuery.Toml

open Text

/-- Reads a part of a text. -/
abbrev Part (α : Type) := List Char → Option (α × List Char)

/-! ## Blanks, comments and line ends -/

/-- The two characters allowed between the tokens of a line. -/
def isBlank (c : Char) : Bool := c == ' ' || c == '\t'

/-- The text from its first character that is not a blank. -/
def skipBlanks (s : List Char) : List Char := s.dropWhile isBlank

/-- A character that a comment or a string in single quotes can hold: any but controls, of which a
tab is allowed. -/
def isPlain (c : Char) : Bool := c == '\t' || (0x20 ≤ c.toNat && c.toNat != 0x7F)

/-- What follows the end of a line. -/
def lineEnd? : List Char → Option (List Char)
  | [] => some []
  | '\n' :: s => some s
  | '\r' :: '\n' :: s => some s
  | _ => none

/-- What follows a line of which only blanks and a comment are left. -/
def finishLine (s : List Char) : Option (List Char) :=
  match skipBlanks s with
  | '#' :: s => lineEnd? (s.dropWhile isPlain)
  | s => lineEnd? s

/-- The text without leading blanks, line ends and comments. -/
def skipFiller (inComment : Bool) : List Char → List Char
  | '\n' :: s => skipFiller false s
  | '\r' :: '\n' :: s => skipFiller false s
  | '#' :: s => skipFiller true s
  | c :: s => if isBlank c || (inComment && isPlain c) then skipFiller inComment s else c :: s
  | [] => []

/-! ## Strings -/

/-- The character with a code point in hexadecimal digits. -/
def hexChar? (digits : List Char) : Option Char := do
  let values ← digits.mapM Document.hexDigit?
  let n := values.foldl (fun n digit => 16 * n + digit) 0
  if n.isValidChar then some (Char.ofNat n) else none

/-- The character that a letter stands for behind a backslash. -/
def unescape? (c : Char) : Option Char := if c = '/' then none else Document.unescape? c

/-- Puts a character in front of what was read. -/
def consChar (c : Char) (r : List Char × List Char) : List Char × List Char := (c :: r.1, r.2)

/-- Reads a string behind its double quote. -/
def readString : Part (List Char)
  | [] => none
  | '"' :: s => some ([], s)
  | '\\' :: 'u' :: a :: b :: c :: d :: s => do
    let x ← hexChar? [a, b, c, d]
    let r ← readString s
    return consChar x r
  | '\\' :: 'U' :: a :: b :: c :: d :: e :: f :: g :: h :: s => do
    let x ← hexChar? [a, b, c, d, e, f, g, h]
    let r ← readString s
    return consChar x r
  | '\\' :: c :: s => do
    let x ← unescape? c
    let r ← readString s
    return consChar x r
  | c :: s => if isPlain c then (readString s).map (consChar c) else none

/-- Reads a string behind its single quote. -/
def readLiteral : Part (List Char)
  | [] => none
  | '\x27' :: s => some ([], s)
  | c :: s => if isPlain c then (readLiteral s).map (consChar c) else none

/-- Whether only blanks are left of a line that another follows. -/
def endsLine (s : List Char) : Bool :=
  match skipBlanks s with
  | '\n' :: _ => true
  | '\r' :: '\n' :: _ => true
  | _ => false

/-- Reads a string of several lines behind its three double quotes. Behind a backslash at the end of
a line, blanks and line ends are passed over. -/
def readLines (passing : Bool) : Part (List Char)
  | [] => none
  | '"' :: '"' :: '"' :: '"' :: '"' :: s => some (['"', '"'], s)
  | '"' :: '"' :: '"' :: '"' :: s => some (['"'], s)
  | '"' :: '"' :: '"' :: s => some ([], s)
  | '\\' :: 'u' :: a :: b :: c :: d :: s => do
    let x ← hexChar? [a, b, c, d]
    let r ← readLines false s
    return consChar x r
  | '\\' :: 'U' :: a :: b :: c :: d :: e :: f :: g :: h :: s => do
    let x ← hexChar? [a, b, c, d, e, f, g, h]
    let r ← readLines false s
    return consChar x r
  | '\\' :: c :: s =>
    if endsLine (c :: s) then readLines true (c :: s)
    else do
      let x ← unescape? c
      let r ← readLines false s
      return consChar x r
  | '\r' :: '\n' :: s =>
    if passing then readLines true s else (readLines false s).map (consChar '\n')
  | c :: s =>
    if passing && (isBlank c || c == '\n') then readLines true s
    else if c == '\n' || isPlain c then (readLines false s).map (consChar c)
    else none

/-- Reads a string of several lines behind its three single quotes. -/
def readLiteralLines : Part (List Char)
  | [] => none
  | '\x27' :: '\x27' :: '\x27' :: '\x27' :: '\x27' :: s => some (['\x27', '\x27'], s)
  | '\x27' :: '\x27' :: '\x27' :: '\x27' :: s => some (['\x27'], s)
  | '\x27' :: '\x27' :: '\x27' :: s => some ([], s)
  | '\r' :: '\n' :: s => (readLiteralLines s).map (consChar '\n')
  | c :: s => if c == '\n' || isPlain c then (readLiteralLines s).map (consChar c) else none

/-- The text behind a line end, if one stands at its start. -/
def dropLineEnd : List Char → List Char
  | '\n' :: s => s
  | '\r' :: '\n' :: s => s
  | s => s

/-- Reads a string on one line, if a quote stands here. -/
def readQuoted : Part String
  | '"' :: s => (readString s).map fun r => (String.ofList r.1, r.2)
  | '\x27' :: s => (readLiteral s).map fun r => (String.ofList r.1, r.2)
  | _ => none

/-- Reads a string, if a quote stands here. -/
def readText : Part String
  | '"' :: '"' :: '"' :: s =>
    (readLines false (dropLineEnd s)).map fun r => (String.ofList r.1, r.2)
  | '\x27' :: '\x27' :: '\x27' :: s =>
    (readLiteralLines (dropLineEnd s)).map fun r => (String.ofList r.1, r.2)
  | s => readQuoted s

/-! ## Numbers and words -/

/-- The digits of a run in which single underscores may stand between digits. -/
def digitGroups? (isDigit : Char → Bool) (s : List Char) : Option (List Char) :=
  let groups := pieces (· == '_') s
  if groups.all fun group => !group.isEmpty && group.all isDigit then some groups.flatten else none

/-- The digits of a number without leading zeros. -/
def wholeDigits? (s : List Char) : Option (List Char) := do
  let digits ← digitGroups? Char.isDigit s
  if digits.head? = some '0' ∧ s.length ≠ 1 then none else some digits

/-- An integer of 64 bits. -/
def int? (i : Int) : Option Scalar :=
  if -9223372036854775808 ≤ i ∧ i < 9223372036854775808 then some (.int (.ofInt i)) else none

/-- An integer in a base that is a power of two. -/
def inBase? (base : Nat) (s : List Char) : Option Scalar := do
  let isDigit c := (Document.hexDigit? c).any (· < base)
  let digits ← digitGroups? isDigit s
  int? (digits.foldl (fun n c => base * n + ((Document.hexDigit? c).getD 0 : Int)) 0)

/-- The exponent of a number. -/
def exponent? (s : List Char) : Option Int := do
  let (negative, rest) := optionalSign s
  let digits ← digitGroups? Char.isDigit rest
  return if negative then -(digitsValue digits : Int) else digitsValue digits

/-- A number with a point or an exponent. -/
def float? (negative : Bool) (s : List Char) : Option Scalar := do
  let (mantissa, exponent) ← match pieces (fun c => c == 'e' || c == 'E') s with
    | [mantissa] => some (mantissa, 0)
    | [mantissa, digits] => (exponent? digits).map (mantissa, ·)
    | _ => none
  let (whole, places) ← match pieces (· == '.') mantissa with
    | [whole] => (wholeDigits? whole).map (·, [])
    | [whole, digits] =>
      (wholeDigits? whole).bind fun whole =>
        (digitGroups? Char.isDigit digits).map fun places => (whole, places)
    | _ => none
  let x := Binary64.ofDecimal negative (digitsValue (whole ++ places)) (exponent - places.length)
  if x = .infinity false then none else some (.float x)

/-- The scalar that a token without quotes writes. -/
def scalarOfToken? (token : List Char) : Option Scalar :=
  match token with
  | ['t', 'r', 'u', 'e'] => some (.bool true)
  | ['f', 'a', 'l', 's', 'e'] => some (.bool false)
  | '0' :: 'x' :: digits => inBase? 16 digits
  | '0' :: 'o' :: digits => inBase? 8 digits
  | '0' :: 'b' :: digits => inBase? 2 digits
  | _ =>
    let (negative, unsigned) := optionalSign token
    match unsigned with
    | ['i', 'n', 'f'] => some (.float (.infinity negative))
    | ['n', 'a', 'n'] => some (.float .nan)
    | _ =>
      match wholeDigits? unsigned with
      | some digits => int? (if negative then -(digitsValue digits : Int) else digitsValue digits)
      | none => float? negative unsigned

/-- A character of a token without quotes. -/
def isTokenChar (c : Char) : Bool := c.isAlphanum || c == '_' || c == '-' || c == '+' || c == '.'

/-- Reads a scalar without quotes. -/
def readPlain : Part Scalar := fun s =>
  match DateTime.read s with
  | some (moment, rest) => some (.text moment.text, rest)
  | none =>
    (scalarOfToken? (s.takeWhile isTokenChar)).map fun value => (value, s.dropWhile isTokenChar)

/-! ## Keys -/

/-- A character of a key without quotes. -/
def isBareChar (c : Char) : Bool := c.isAlphanum || c == '_' || c == '-'

/-- Reads a part of a key, between blanks. -/
def readKeyPart : Part String := fun s =>
  let s := skipBlanks s
  let bare := s.takeWhile isBareChar
  let part? := if bare.isEmpty then readQuoted s else some (String.ofList bare, s.drop bare.length)
  part?.map fun (part, rest) => (part, skipBlanks rest)

/-- Reads a key of at most `room` parts, at its dots. -/
def readKeyParts (room : Nat) : Part (List String) := fun s =>
  match room with
  | 0 => none
  | room + 1 =>
    match readKeyPart s with
    | some (part, '.' :: rest) => (readKeyParts room rest).map fun r => (part :: r.1, r.2)
    | some (part, rest) => some ([part], rest)
    | none => none

/-- The number of arrays and tables in braces that a value may nest, and of parts that a key may
have. -/
def maxNesting : Nat := 79

/-- Reads a key, at its dots. -/
def readKey : Part (List String) := readKeyParts maxNesting

/-- Reads a key, an equals sign and a value. -/
def readEntry (readValue : Part Toml) : Part (List String × Toml) := fun s =>
  match readKey s with
  | some (path, '=' :: rest) =>
    (readValue (skipBlanks rest)).map fun r => ((path, r.1), r.2)
  | _ => none

/-! ## Values -/

/-- Reads the items of an array up to its bracket. The fuel bounds their number. -/
def readItems (readValue : Part Toml) (fuel : Nat) : Part (List Toml) := fun s =>
  match fuel with
  | 0 => none
  | fuel + 1 =>
    match skipFiller false s with
    | ']' :: rest => some ([], rest)
    | s => do
      let (item, rest) ← readValue s
      match skipFiller false rest with
      | ',' :: rest =>
        let (items, rest) ← readItems readValue fuel rest
        return (item :: items, rest)
      | ']' :: rest => return ([item], rest)
      | _ => none

/-- Reads the entries of a table in braces up to its brace. The fuel bounds their number. -/
def readEntries (readValue : Part Toml) (fuel : Nat) : Part (List (List String × Toml)) := fun s =>
  match fuel with
  | 0 => none
  | fuel + 1 => do
    let (entry, rest) ← readEntry readValue s
    match skipBlanks rest with
    | ',' :: rest =>
      let (entries, rest) ← readEntries readValue fuel rest
      return (entry :: entries, rest)
    | '\x7d' :: rest => return ([entry], rest)
    | _ => none

/-- Reads a value in which at most `room` arrays and tables in braces nest. -/
def readValue (room : Nat) : Part Toml
  | '[' :: s =>
    match room with
    | 0 => none
    | room + 1 => do
      let (items, rest) ← readItems (readValue room) (s.length + 1) s
      return (.array items, rest)
  | '\x7b' :: s =>
    match room with
    | 0 => none
    | room + 1 =>
      match skipBlanks s with
      | '\x7d' :: rest => some (.table .closed [], rest)
      | s => do
        let (entries, rest) ← readEntries (readValue room) (s.length + 1) s
        let fields ← assignAll entries []
        return (.table .closed fields, rest)
  | '"' :: s => (readText ('"' :: s)).map fun r => (.scalar (.text r.1), r.2)
  | '\x27' :: s => (readText ('\x27' :: s)).map fun r => (.scalar (.text r.1), r.2)
  | s => (readPlain s).map fun r => (.scalar r.1, r.2)

/-! ## Texts -/

/-- Reads a header behind its first bracket. -/
def readHeader (s : List Char) : Option (Header × List Char) :=
  match s with
  | '[' :: s =>
    match readKey s with
    | some (path, ']' :: ']' :: rest) => some (⟨path, true⟩, rest)
    | _ => none
  | s =>
    match readKey s with
    | some (path, ']' :: rest) => some (⟨path, false⟩, rest)
    | _ => none

/-- Reads the rest of a text, of which a section is under way. The fuel bounds the number of its
lines. -/
def readSections (fuel : Nat) (header? : Option Header) (entries : List (List String × Toml))
    (s : List Char) : Option (List Section) :=
  match fuel with
  | 0 => none
  | fuel + 1 =>
    match skipFiller false s with
    | [] => some [⟨header?, entries.reverse⟩]
    | '[' :: s => do
      let (next, rest) ← readHeader s
      let rest ← finishLine rest
      let sections ← readSections fuel (some next) [] rest
      return ⟨header?, entries.reverse⟩ :: sections
    | s => do
      let (entry, rest) ← readEntry (readValue maxNesting) s
      let rest ← finishLine rest
      readSections fuel header? (entry :: entries) rest

/-- The fields of a text, if it is TOML. -/
def read? (text : String) : Option Fields :=
  (readSections (text.length + 1) none [] text.toList).bind ofSections?

end RowQuery.Toml
