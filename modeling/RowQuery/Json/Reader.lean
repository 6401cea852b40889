import RowQuery.Json.Document
import RowQuery.Text.Numeral

/-!
# Reading JSON text

`Document.read` reads a text into a `Document` and what follows it. The readers of the parts return
what they read and the rest of the text, or no rest where reading stopped. Arrays and objects nested
deeper than allowed are read all the same and marked, since only some readers of a document mind.
Recursion is bounded by twice the length of the text, since no two calls in a row leave it as long
as it was.
-/

namespace RowQuery.Document

open Text

/-- What is left of a text, if reading has not stopped. -/
abbrev Rest := Option (List Char)

/-- The four characters that JSON allows between tokens. -/
def isSpace (c : Char) : Bool := c == ' ' || c == '\n' || c == '\t' || c == '\r'

/-- The text from its first character that is not a space. -/
def skipSpaces (s : List Char) : List Char := s.dropWhile isSpace

/-! ## Words -/

/-- Reads what is left of a word. -/
def readWord (value : Option Bool) : List Char → List Char → Except Fault (Option Bool) × Rest
  | [], s => (.ok value, some s)
  | _ :: _, [] => (.error .cutShort, none)
  | c :: letters, d :: s => if c = d then readWord value letters s else (.error .malformed, none)

/-! ## Numbers -/

/-- The value of a number from its parts: the digits before and after the point, if there is one,
and the exponent, if there is one. Without either it is an integer, except that a negative zero and
integers of more than 64 bits are floating-point numbers. -/
def numberOf (negative : Bool) (whole : List Char) (places : Option (List Char))
    (exponent : Option Int) : NumberToken :=
  let n? : Option Json.Number :=
    match places, exponent with
    | none, none =>
      let n := digitsValue whole
      if negative then
        if n = 0 ∨ 9223372036854775808 < n then Json.Number.ofBinary64? (.ofDecimal true n 0)
        else Json.Number.ofInt? (-(n : Int))
      else Json.Number.ofInt? n
    | _, _ =>
      let digits := places.getD []
      Json.Number.ofBinary64?
        (.ofDecimal negative (digitsValue (whole ++ digits)) (exponent.getD 0 - digits.length))
  match n? with
  | some n => .value n
  | none => .outOfRange

/-- A fault where a digit should stand. -/
def missingDigit (s : List Char) : NumberToken :=
  .broken (if s.isEmpty then .cutShort else .malformed)

/-- Reads the exponent of a number, if one follows. -/
def readExponent (negative : Bool) (whole : List Char) (places : Option (List Char))
    (s : List Char) : NumberToken × Rest :=
  match s with
  | mark :: afterMark =>
    if mark = 'e' ∨ mark = 'E' then
      let (down, afterSign) := optionalSign afterMark
      let (digits, rest) := digitRun afterSign
      if digits.isEmpty then (missingDigit afterSign, none)
      else
        let size : Int := digitsValue digits
        (numberOf negative whole places (some (if down then -size else size)), some rest)
    else (numberOf negative whole places none, some s)
  | [] => (numberOf negative whole places none, some [])

/-- Reads the digits of a number and what follows them. -/
def readUnsigned (negative : Bool) (s : List Char) : NumberToken × Rest :=
  let (whole, rest) := digitRun s
  match whole with
  | [] => (missingDigit s, none)
  | '0' :: _ :: _ => (.broken .malformed, none)
  | _ =>
    match rest with
    | '.' :: afterPoint =>
      let (places, rest) := digitRun afterPoint
      if places.isEmpty then (missingDigit afterPoint, none)
      else readExponent negative whole (some places) rest
    | _ => readExponent negative whole none rest

/-- Reads a number. -/
def readNumber : List Char → NumberToken × Rest
  | '-' :: s => readUnsigned true s
  | s => readUnsigned false s

/-! ## Strings -/

/-- The character that a letter stands for behind a backslash. -/
def unescape? : Char → Option Char
  | '"' => some '"'
  | '\\' => some '\\'
  | '/' => some '/'
  | 'b' => some '\x08'
  | 'f' => some '\x0c'
  | 'n' => some '\n'
  | 'r' => some '\r'
  | 't' => some '\t'
  | _ => none

/-- The value of a hexadecimal digit in either case. -/
def hexDigit? (c : Char) : Option Nat :=
  if c.isDigit then some (c.toNat - 48)
  else if 'a' ≤ c ∧ c ≤ 'f' then some (c.toNat - 87)
  else if 'A' ≤ c ∧ c ≤ 'F' then some (c.toNat - 55)
  else none

/-- The value of four hexadecimal digits. -/
def hexCode? (a b c d : Char) : Option Nat := do
  let a ← hexDigit? a
  let b ← hexDigit? b
  let c ← hexDigit? c
  let d ← hexDigit? d
  return ((a * 16 + b) * 16 + c) * 16 + d

/-- The fault of an escape without four hexadecimal digits: the text is cut short if what is left of
it is too short for them in UTF-8. -/
def missingHex (s : List Char) : Fault :=
  if (s.map Char.utf8Size).foldr Nat.add 0 < 4 then .cutShort else .malformed

/-- Puts a unit in front of what was read. -/
def consUnit (u : CodeUnit) (r : StringToken × Rest) : StringToken × Rest :=
  (⟨u :: r.1.units, r.1.stop⟩, r.2)

/-- A string whose reading stops. -/
def stopped (fault : Fault) : StringToken × Rest := (⟨[], some fault⟩, none)

/-- Reads a string behind its opening quote. -/
def readString : List Char → StringToken × Rest
  | [] => stopped .cutShort
  | '"' :: s => (⟨[], none⟩, some s)
  | '\\' :: 'u' :: a :: b :: c :: d :: s =>
    match hexCode? a b c d with
    | some n => consUnit (.code n) (readString s)
    | none => stopped .malformed
  | '\\' :: 'u' :: s => stopped (missingHex s)
  | '\\' :: c :: s =>
    match unescape? c with
    | some d => consUnit (.char d) (readString s)
    | none => stopped .malformed
  | ['\\'] => stopped .cutShort
  | c :: s => if c.toNat < 0x20 then stopped .malformed else consUnit (.char c) (readString s)

/-! ## Values -/

/-- Reads a word, number or string, if one begins here. -/
def readToken? : List Char → Option (Document × Rest)
  | '"' :: s => let (t, rest) := readString s; some (.string t, rest)
  | 'n' :: s => let (w, rest) := readWord none ['u', 'l', 'l'] s; some (.word w, rest)
  | 't' :: s => let (w, rest) := readWord (some true) ['r', 'u', 'e'] s; some (.word w, rest)
  | 'f' :: s => let (w, rest) := readWord (some false) ['a', 'l', 's', 'e'] s; some (.word w, rest)
  | c :: s =>
    if c = '-' ∨ c.isDigit then let (n, rest) := readNumber (c :: s); some (.number n, rest)
    else none
  | [] => none

/-- The document of a text on which no value begins. -/
def noValue (s : List Char) : Document :=
  .nothing (if s.isEmpty then .cutShort else .malformed)

/-- Reads a key. An array or object in its place is not entered. -/
def readKey (s : List Char) : Document × Rest :=
  match s with
  | '[' :: _ => (.array false [] none, none)
  | '\x7b' :: _ => (.object false [] none, none)
  | _ =>
    match readToken? s with
    | some (.string t, rest) => (.string t, rest)
    | some (d, _) => (d, none)
    | none => (noValue s, none)

mutual

/-- Reads a value. `room` is how many more arrays and objects may be entered. -/
def readValue (fuel room : Nat) (s : List Char) : Document × Rest :=
  match fuel with
  | 0 => (.nothing .cutShort, none)
  | fuel + 1 =>
    match skipSpaces s with
    | '[' :: s =>
      let (items, stop, rest) :=
        match skipSpaces s with
        | ']' :: s => ([], none, some s)
        | [] => ([], some .cutShort, none)
        | s => readItems fuel (room - 1) s
      (.array (room == 0) items stop, rest)
    | '\x7b' :: s =>
      let (fields, stop, rest) :=
        match skipSpaces s with
        | '\x7d' :: s => ([], none, some s)
        | [] => ([], some .cutShort, none)
        | s => readFields fuel (room - 1) s
      (.object (room == 0) fields stop, rest)
    | s =>
      match readToken? s with
      | some r => r
      | none => (noValue s, none)

/-- Reads the items of an array up to its bracket. -/
def readItems (fuel room : Nat) (s : List Char) : List Document × Option Fault × Rest :=
  match fuel with
  | 0 => ([], some .cutShort, none)
  | fuel + 1 =>
    match readValue fuel room s with
    | (d, none) => ([d], some .malformed, none)
    | (d, some s) =>
      match skipSpaces s with
      | ',' :: s =>
        let (items, stop, rest) := readItems fuel room s
        (d :: items, stop, rest)
      | ']' :: s => ([d], none, some s)
      | [] => ([d], some .cutShort, none)
      | _ => ([d], some .malformed, none)

/-- Reads the fields of an object up to its brace. -/
def readFields (fuel room : Nat) (s : List Char) :
    List (Document × Document) × Option Fault × Rest :=
  match fuel with
  | 0 => ([], some .cutShort, none)
  | fuel + 1 =>
    match readKey (skipSpaces s) with
    | (k, none) => ([(k, .nothing .malformed)], some .malformed, none)
    | (k, some s) =>
      match skipSpaces s with
      | ':' :: s =>
        match readValue fuel room s with
        | (d, none) => ([(k, d)], some .malformed, none)
        | (d, some s) =>
          match skipSpaces s with
          | ',' :: s =>
            let (fields, stop, rest) := readFields fuel room s
            ((k, d) :: fields, stop, rest)
          | '\x7d' :: s => ([(k, d)], none, some s)
          | [] => ([(k, d)], some .cutShort, none)
          | _ => ([(k, d)], some .malformed, none)
      | [] => ([(k, .nothing .cutShort)], some .cutShort, none)
      | _ => ([(k, .nothing .malformed)], some .malformed, none)

end

/-- The number of arrays and objects that a text may nest. -/
def maxNesting : Nat := 127

/-- Reads one document from a text in which at most `room` arrays and objects may nest; the fault,
if any, is of what follows the document. -/
def readWithin (room : Nat) (text : String) : Document × Option Fault :=
  match readValue (2 * text.length + 2) room text.toList with
  | (d, some rest) => (d, if (skipSpaces rest).isEmpty then none else some .malformed)
  | (d, none) => (d, none)

/-- Reads one document from a text. -/
def read (text : String) : Document × Option Fault := readWithin maxNesting text

end RowQuery.Document
