import Pairwise.Json.Reader
/-!
# Points in time

A point in time is kept in universal time, to the nanosecond, with the seconds of a leap second
counted on from the one before. It is written as `2024-01-01T00:00:00Z`, with three, six or nine
digits of a fraction where there is one, and read in that form with any offset.

The examples at the end show where the calendar starts.
-/
namespace Pairwise

/-- A day of the calendar. -/
structure Date where
  year : Int
  month : Nat
  day : Nat
  deriving DecidableEq, Repr

namespace Date

def isLeap (year : Int) : Bool :=
  year % 4 == 0 && (year % 100 != 0 || year % 400 == 0)

/-- The days of a month. -/
def daysIn (year : Int) (month : Nat) : Nat :=
  if month = 2 then (if isLeap year then 29 else 28)
  else if month = 4 ∨ month = 6 ∨ month = 9 ∨ month = 11 then 30
  else 31

/-- The days from 1970-01-01 to a date. Years are counted from March, so that the leap day is the
last of its year. -/
def toDays (d : Date) : Int :=
  let year := if d.month ≤ 2 then d.year - 1 else d.year
  let era := year / 400
  let yearOfEra := year - era * 400
  let month : Int := (d.month + 9 : Nat) % 12
  let dayOfYear := (153 * month + 2) / 5 + d.day - 1
  let dayOfEra := yearOfEra * 365 + yearOfEra / 4 - yearOfEra / 100 + dayOfYear
  era * 146097 + dayOfEra - 719468

/-- The date a number of days after 1970-01-01. -/
def ofDays (days : Int) : Date :=
  let z := days + 719468
  let era := z / 146097
  let dayOfEra := z - era * 146097
  let yearOfEra := (dayOfEra - dayOfEra / 1460 + dayOfEra / 36524 - dayOfEra / 146096) / 365
  let dayOfYear := dayOfEra - (365 * yearOfEra + yearOfEra / 4 - yearOfEra / 100)
  let m := (5 * dayOfYear + 2) / 153
  let day := dayOfYear - (153 * m + 2) / 5 + 1
  let month := if m < 10 then m + 3 else m - 9
  let year := yearOfEra + era * 400 + (if month ≤ 2 then 1 else 0)
  ⟨year, month.toNat, day.toNat⟩

end Date

/-- A point in time: seconds from 1970-01-01 and nanoseconds, of which a leap second has up to two
thousand million. -/
structure Timestamp where
  seconds : Int
  nanos : Nat
  deriving DecidableEq, Repr, Inhabited

namespace Timestamp

/-- The start of 1970. -/
def epoch : Timestamp := ⟨0, 0⟩

/-- A number with at least `width` digits. -/
def padded (width n : Nat) : List Char :=
  let ds := Nat.toDigits 10 n
  List.replicate (width - ds.length) '0' ++ ds

/-- A year: four digits, or a sign and at least five places with it. -/
def yearText (year : Int) : List Char :=
  if 0 ≤ year ∧ year ≤ 9999 then padded 4 year.natAbs
  else (if year < 0 then '-' else '+') :: padded 4 year.natAbs

/-- The fraction of a second: none, or three, six or nine digits. -/
def fractionText (nanos : Nat) : List Char :=
  if nanos = 0 then []
  else if nanos % 1000000 = 0 then '.' :: padded 3 (nanos / 1000000)
  else if nanos % 1000 = 0 then '.' :: padded 6 (nanos / 1000)
  else '.' :: padded 9 nanos

/-- The text of a point in time. -/
def text (t : Timestamp) : String :=
  let date := Date.ofDays (t.seconds / 86400)
  let second := (t.seconds % 86400).toNat
  let leap := if t.nanos < 1000000000 then 0 else 1
  String.ofList (yearText date.year ++ '-' :: padded 2 date.month ++ '-' :: padded 2 date.day
    ++ 'T' :: padded 2 (second / 3600) ++ ':' :: padded 2 (second / 60 % 60)
    ++ ':' :: padded 2 (second % 60 + leap)
    ++ fractionText (t.nanos % 1000000000) ++ ['Z'])

/-! ## Reading -/

/-- Blanks of any kind. -/
def isSpace (c : Char) : Bool :=
  let n := c.toNat
  (9 ≤ n && n ≤ 13) || n == 32 || n == 0x85 || n == 0xA0 || n == 0x1680
    || (0x2000 ≤ n && n ≤ 0x200A) || n == 0x2028 || n == 0x2029 || n == 0x202F || n == 0x205F
    || n == 0x3000

/-- Drops blanks from the front. -/
def trim (s : List Char) : List Char := s.dropWhile isSpace

/-- Up to `width` digits, at least one; the rest stays. -/
def number? (width : Nat) (s : List Char) : Option (Nat × List Char) :=
  let ds := (s.take width).takeWhile Char.isDigit
  if ds.isEmpty then none
  else some (ds.foldl (fun n c => n * 10 + (c.toNat - 48)) 0, s.drop ds.length)

/-- A year: four digits at most, or any number of them after a sign. -/
def year? (s : List Char) : Option (Int × List Char) :=
  match trim s with
  | '-' :: rest => (number? rest.length rest).map fun (n, rest) => (-(n : Int), rest)
  | '+' :: rest => (number? rest.length rest).map fun (n, rest) => ((n : Int), rest)
  | rest => (number? 4 rest).map fun (n, rest) => ((n : Int), rest)

/-- A mark with blanks allowed in front of it. -/
def mark? (c : Char) (s : List Char) : Option (List Char) :=
  match trim s with
  | d :: rest => if d = c then some rest else none
  | [] => none

/-- A number of up to two digits with blanks allowed in front of it. -/
def two? (s : List Char) : Option (Nat × List Char) := number? 2 (trim s)

/-- The fraction of a second in nanoseconds: nine digits count, more are dropped. -/
def fraction? (s : List Char) : Option (Nat × List Char) :=
  match s with
  | '.' :: rest =>
    let ds := rest.takeWhile Char.isDigit
    if ds.isEmpty then none
    else
      let kept := ds.take 9
      let n := kept.foldl (fun n c => n * 10 + (c.toNat - 48)) 0
      some (n * Nat.pow 10 (9 - kept.length), rest.drop ds.length)
  | rest => some (0, rest)

/-- Two digits that must be there. -/
def twoDigits? (s : List Char) : Option (Nat × List Char) :=
  match s with
  | a :: b :: rest =>
    if a.isDigit && b.isDigit then some ((a.toNat - 48) * 10 + (b.toNat - 48), rest) else none
  | _ => none

/-- The offset from universal time in seconds: `Z`, `UTC`, or a sign, hours and minutes. -/
def offset? (s : List Char) : Option (Int × List Char) :=
  match s with
  | 'Z' :: rest => some (0, rest)
  | 'z' :: rest => some (0, rest)
  | a :: b :: c :: rest =>
    if a.toUpper = 'U' ∧ b.toUpper = 'T' ∧ c.toUpper = 'C' then some (0, rest)
    else do
      let negative ←
        if a = '+' then some false
        else if a = '-' ∨ a = '−' then some true
        else none
      let (hours, rest) ← twoDigits? (b :: c :: rest)
      let rest := rest.dropWhile fun c => c == ':' || isSpace c
      let (minutes, rest) ← twoDigits? rest
      if minutes < 60 then
        let seconds : Int := (hours * 3600 + minutes * 60 : Nat)
        return (if negative then -seconds else seconds, rest)
      else none
  | _ => none

/-- The last year that dates may have. -/
def lastYear : Int := 262142

/-- The first year that dates may have. -/
def firstYear : Int := -262143

/-- Whether a year is one that dates may have. -/
def isYear (year : Int) : Bool := firstYear ≤ year && year ≤ lastYear

/-- Reads a point in time. Both the date that is written and the date in universal time must lie in
the years that dates may have. -/
def ofText? (s : String) : Option Timestamp := do
  let (year, s) ← year? s.toList
  let s ← mark? '-' s
  let (month, s) ← two? s
  let s ← mark? '-' s
  let (day, s) ← two? s
  let s ← match s with
    | c :: rest => if c = 't' ∨ c = 'T' ∨ c = ' ' then some rest else none
    | [] => none
  let (hour, s) ← two? s
  let s ← mark? ':' s
  let (minute, s) ← two? s
  let s ← mark? ':' s
  let (second, s) ← two? s
  let (nanos, s) ← fraction? s
  let (offset, s) ← offset? (trim s)
  let date : Date := ⟨year, month, day⟩
  if (trim s).isEmpty ∧ isYear year ∧ 1 ≤ month ∧ month ≤ 12 ∧ 1 ≤ day
      ∧ day ≤ Date.daysIn year month ∧ hour < 24 ∧ minute < 60 ∧ second ≤ 60
      ∧ offset.natAbs < 86400 then
    let leap := second = 60
    let second := if leap then 59 else second
    let local_ := date.toDays * 86400 + (hour * 3600 + minute * 60 + second : Nat)
    let seconds := local_ - offset
    if isYear (Date.ofDays (seconds / 86400)).year then
      return ⟨seconds, if leap then nanos + 1000000000 else nanos⟩
    else none
  else none

/-- Reads a point in time from its text. -/
def reader : Json.Reader Timestamp := Json.Reader.refine Json.Reader.string ofText?

/-- The value of a point in time. -/
def toJson (t : Timestamp) : Json := .str t.text

example : (Date.mk 1970 1 1).toDays = 0 ∧ Date.ofDays 0 = ⟨1970, 1, 1⟩
    ∧ Date.ofDays (Date.mk 2024 2 29).toDays = ⟨2024, 2, 29⟩
    ∧ Date.ofDays (-1) = ⟨1969, 12, 31⟩ := by decide

end Timestamp

end Pairwise
