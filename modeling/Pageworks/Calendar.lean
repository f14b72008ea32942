import Pageworks.Text.Category

/-!
# Calendar

Dates of the Gregorian calendar and moments with an optional offset from universal time.

## Main definitions

* `Date`, `Moment`: the values, with `check` for their ranges.
* `DateFault`: which part of a date or a moment is out of range.
* `Date.iso`, `Moment.text`: the international notation.
* `Moment.ofIso?`: reads it.
-/

namespace Pageworks

open Pageworks.Text

/-- A part of a date or a moment that is out of range. -/
inductive DateFault
  /-- The year is not between 1 and 9999. -/
  | year (y : Nat)
  /-- The month is not between 1 and 12. -/
  | month
  /-- The month has no such day. -/
  | day
  /-- The hour is not between 0 and 23. -/
  | hour
  /-- The minute is not between 0 and 59. -/
  | minute
  /-- The second is not between 0 and 59. -/
  | second
  /-- The offset is a day or more. -/
  | zone
  deriving DecidableEq, Repr

/-- The wording of a fault. -/
def DateFault.message : DateFault → String
  | .year y => "year " ++ toString y ++ " is out of range"
  | .month => "month must be in 1..12"
  | .day => "day is out of range for month"
  | .hour => "hour must be in 0..23"
  | .minute => "minute must be in 0..59"
  | .second => "second must be in 0..59"
  | .zone => "offset must be a timedelta strictly between " ++
      "-timedelta(hours=24) and timedelta(hours=24)."

/-- A day of the calendar. -/
structure Date where
  /-- The year, from 1 to 9999. -/
  year : Nat
  /-- The month, from 1 to 12. -/
  month : Nat
  /-- The day of the month, from 1. -/
  day : Nat
  deriving DecidableEq, Repr

/-- A time of a day, with its offset from universal time if it has one. -/
structure Moment where
  /-- The day. -/
  date : Date
  /-- The hour, from 0 to 23. -/
  hour : Nat
  /-- The minute, from 0 to 59. -/
  minute : Nat
  /-- The second, from 0 to 59. -/
  second : Nat
  /-- The millionths of a second. -/
  micro : Nat
  /-- Minutes ahead of universal time. -/
  offset : Option Int
  deriving DecidableEq, Repr

/-- Decimal digits of `n`, at least `width` of them. -/
def padded (width n : Nat) : String :=
  let ds := Nat.toDigits 10 n
  String.ofList (List.replicate (width - ds.length) '0' ++ ds)

namespace Date

/-- Every fourth year is long, of the full centuries every fourth. -/
def isLong (y : Nat) : Bool := y % 4 == 0 && (y % 100 != 0 || y % 400 == 0)

/-- The days of a month. -/
def daysIn (y m : Nat) : Nat :=
  if m == 2 then (if isLong y then 29 else 28)
  else if m == 4 || m == 6 || m == 9 || m == 11 then 30 else 31

/-- The date, if its parts are in range. -/
def check (d : Date) : Except DateFault Date :=
  if d.year < 1 || 9999 < d.year then .error (.year d.year)
  else if d.month < 1 || 12 < d.month then .error .month
  else if d.day < 1 || daysIn d.year d.month < d.day then .error .day
  else .ok d

/-- Year, month and day with hyphens. -/
def iso (d : Date) : String := padded 4 d.year ++ "-" ++ padded 2 d.month ++ "-" ++ padded 2 d.day

end Date

namespace Moment

/-- The moment, if its parts are in range. -/
def check (t : Moment) : Except DateFault Moment :=
  match t.offset with
  | some z =>
    if 1440 ≤ z.natAbs then .error .zone else inRange t
  | none => inRange t
where
  /-- The check of the parts other than the offset. -/
  inRange (t : Moment) : Except DateFault Moment := do
    let _ ← t.date.check
    if 23 < t.hour then throw .hour
    if 59 < t.minute then throw .minute
    if 59 < t.second then throw .second
    return t

/-- The offset as a sign with hours and minutes. -/
def zoneText : Option Int → String
  | none => ""
  | some z =>
    (if z < 0 then "-" else "+") ++ padded 2 (z.natAbs / 60) ++ ":" ++ padded 2 (z.natAbs % 60)

/-- The moment in the international notation, the given mark between day and time.  The fraction
is left out when it is zero. -/
def text (mark : String) (t : Moment) : String :=
  t.date.iso ++ mark ++ padded 2 t.hour ++ ":" ++ padded 2 t.minute ++ ":" ++ padded 2 t.second ++
    (if t.micro == 0 then "" else "." ++ padded 6 t.micro) ++ zoneText t.offset

/-- The value of a run of digits. -/
def numberOf (ds : List Char) : Nat := ds.foldl (fun n c => n * 10 + hexValue c) 0

/-- The millionths that a fraction of a second stands for; further digits are dropped. -/
def microOf (fraction : List Char) : Nat :=
  let ds := fraction.take 6
  numberOf (ds ++ List.replicate (6 - ds.length) '0')

/-- A number of the given count of digits at the start of a text, and the rest. -/
def digits? (count : Nat) (cs : List Char) : Option (Nat × List Char) :=
  let ds := cs.take count
  if ds.length == count && ds.all isAsciiDigit then some (numberOf ds, cs.drop count) else none

/-- A mark and a number of two digits after it; zero if the text does not go on with the mark. -/
def part? (mark : Char) (cs : List Char) : Option (Nat × List Char) :=
  match cs with
  | c :: rest => if c == mark then digits? 2 rest else some (0, cs)
  | [] => some (0, [])

/-- A moment in the international notation; time, seconds, fraction and offset may be left out. -/
def ofIso? (s : String) : Option Moment := do
  let (y, cs) ← digits? 4 s.toList
  let (mo, cs) ← part? '-' cs
  let (d, cs) ← part? '-' cs
  let (h, cs) ← match cs with
    | [] => some (0, [])
    | _ :: rest => digits? 2 rest
  let (mi, cs) ← part? ':' cs
  let (sec, cs) ← part? ':' cs
  let (micro, cs) := match cs with
    | '.' :: rest => (microOf (rest.takeWhile isAsciiDigit), rest.dropWhile isAsciiDigit)
    | _ => (0, cs)
  let offset ← match cs with
    | [] => some none
    | ['Z'] => some (some 0)
    | sign :: rest => do
      let (zh, rest) ← digits? 2 rest
      let (zm, _) ← part? ':' rest
      let z : Int := zh * 60 + zm
      some (some (if sign == '-' then -z else z))
  (Moment.check ⟨⟨y, mo, d⟩, h, mi, sec, micro, offset⟩).toOption

end Moment

end Pageworks
