import RowQuery.Text.Numeral

/-!
# Dates and times

A `DateTime` is a date, a time of day, or both with or without an offset from universal time.
`DateTime.read` reads the longest one at the start of a text, in the forms of RFC 3339, and
`DateTime.text` writes it: with a `T` between date and time, no zeros at the end of a fraction and
the offset in hours and minutes. A date that does not exist is not read (`Date.read`).
-/

namespace RowQuery.Toml

/-- A day of the calendar. -/
structure Date where
  year : Nat
  month : Nat
  day : Nat
deriving DecidableEq, Repr

/-- A time of day, with room for a leap second. -/
structure Time where
  hour : Nat
  minute : Nat
  second : Nat
  nanosecond : Nat
deriving DecidableEq, Repr

/-- The offset of a time from universal time. -/
inductive Offset where
  /-- None, written as `Z`. -/
  | zulu
  | minutes (count : Int)
deriving DecidableEq, Repr

/-- A date, a time, or both. -/
inductive DateTime where
  | date (date : Date)
  | time (time : Time)
  | both (date : Date) (time : Time) (offset? : Option Offset)
deriving DecidableEq, Repr

/-! ## Writing -/

/-- A number with zeros in front of it up to a count of digits. -/
def padded (count n : Nat) : String :=
  let digits := Nat.toDigits 10 n
  String.ofList (List.replicate (count - digits.length) '0' ++ digits)

/-- The text of a date. -/
def Date.text (d : Date) : String :=
  padded 4 d.year ++ "-" ++ padded 2 d.month ++ "-" ++ padded 2 d.day

/-- The fraction of a second with its point, unless it is zero. -/
def fractionText (nanosecond : Nat) : String :=
  if nanosecond = 0 then ""
  else
    let digits := (padded 9 nanosecond).toList
    "." ++ String.ofList (digits.reverse.dropWhile (· == '0')).reverse

/-- The text of a time. -/
def Time.text (t : Time) : String :=
  padded 2 t.hour ++ ":" ++ padded 2 t.minute ++ ":" ++ padded 2 t.second
    ++ fractionText t.nanosecond

/-- The text of an offset. -/
def Offset.text : Offset → String
  | .zulu => "Z"
  | .minutes count =>
    (if count < 0 then "-" else "+") ++ padded 2 (count.natAbs / 60) ++ ":"
      ++ padded 2 (count.natAbs % 60)

/-- The text of a date, a time or both. -/
def DateTime.text : DateTime → String
  | .date d => d.text
  | .time t => t.text
  | .both d t offset? => d.text ++ "T" ++ t.text ++ (offset?.map Offset.text).getD ""

/-! ## Reading -/

/-- Reads as many digits as asked for, if their number is at most a bound. -/
def readDigits (count bound : Nat) (s : List Char) : Option (Nat × List Char) :=
  let digits := s.take count
  let value := Text.digitsValue digits
  if digits.length = count && digits.all Char.isDigit && value ≤ bound
  then some (value, s.drop count)
  else none

/-- Reads a character. -/
def readMark (mark : Char) : List Char → Option (List Char)
  | [] => none
  | c :: s => if c = mark then some s else none

/-- The number of days of a month. -/
def daysIn (year month : Nat) : Nat :=
  let leap := year % 4 = 0 ∧ (year % 100 ≠ 0 ∨ year % 400 = 0)
  if month = 2 then (if leap then 29 else 28)
  else if month = 4 ∨ month = 6 ∨ month = 9 ∨ month = 11 then 30
  else 31

/-- Reads a date that exists. -/
def Date.read (s : List Char) : Option (Date × List Char) := do
  let (year, s) ← readDigits 4 9999 s
  let s ← readMark '-' s
  let (month, s) ← readDigits 2 12 s
  let s ← readMark '-' s
  let (day, s) ← readDigits 2 (daysIn year month) s
  if month = 0 ∨ day = 0 then none else some ({ year, month, day }, s)

/-- Reads the fraction of a second, if a point stands here, down to nanoseconds. -/
def readFraction : List Char → Option (Nat × List Char)
  | '.' :: s =>
    let digits := s.takeWhile Char.isDigit
    let kept := digits.take 9
    let zeros := List.replicate (9 - kept.length) '0'
    if digits.isEmpty then none
    else some (Text.digitsValue (kept ++ zeros), s.drop digits.length)
  | s => some (0, s)

/-- Reads a time of day. -/
def Time.read (s : List Char) : Option (Time × List Char) := do
  let (hour, s) ← readDigits 2 23 s
  let s ← readMark ':' s
  let (minute, s) ← readDigits 2 59 s
  let s ← readMark ':' s
  let (second, s) ← readDigits 2 60 s
  let (nanosecond, s) ← readFraction s
  return ({ hour, minute, second, nanosecond }, s)

/-- Reads an offset, if there is one. -/
def readOffset (s : List Char) : Option (Option Offset × List Char) :=
  let minutes (negative : Bool) (s : List Char) : Option (Option Offset × List Char) := do
    let (hours, s) ← readDigits 2 23 s
    let s ← readMark ':' s
    let (minutes, s) ← readDigits 2 59 s
    let count : Int := 60 * hours + minutes
    return (some (.minutes (if negative then -count else count)), s)
  match s with
  | 'Z' :: s | 'z' :: s => some (some .zulu, s)
  | '+' :: s => minutes false s
  | '-' :: s => minutes true s
  | s => some (none, s)

/-- Whether a time may follow a date behind a character. -/
def isTimeMark (c : Char) : Bool := c == 'T' || c == 't' || c == ' '

/-- Reads the longest date, time or both at the start of a text. A date ends before a blank behind
which no time begins. -/
def DateTime.read (s : List Char) : Option (DateTime × List Char) :=
  match Date.read s with
  | none => (Time.read s).map fun (t, rest) => (.time t, rest)
  | some (d, rest) =>
    match rest with
    | [] => some (.date d, rest)
    | mark :: afterMark =>
      match if isTimeMark mark then Time.read afterMark else none with
      | none => some (.date d, rest)
      | some (t, rest) => (readOffset rest).map fun (offset?, rest) => (.both d t offset?, rest)

end RowQuery.Toml
