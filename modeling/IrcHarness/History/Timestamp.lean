import IrcHarness.Text.Ascii
import IrcHarness.Text.Digit

/-!
# Timestamps

Points in time as RFC 3339 writes them: a date, a time of day and the distance
from UTC. Every field has a fixed count of digits but the fraction of a
second, of which nine digits count.

Seconds run to 60. Sixty is a leap second, which has no number of its own in a
count of seconds, so it is the last second of the minute gone on: second 59
with a whole second of nanoseconds more.

## Main definitions

* `Timestamp`: A point in time, in seconds and nanoseconds since 1970.
* `Timestamp.dayNumber`: Days since the first day of the year 0.
* `Timestamp.parse?`: The point in time that a text denotes.
-/

namespace IrcHarness

/-- A point in time. -/
structure Timestamp where
  /-- Whole seconds since the start of 1970 in UTC. -/
  seconds : Int
  /-- Nanoseconds behind them, a whole second more in a leap second. -/
  nanoseconds : Nat
deriving DecidableEq, Repr

namespace Timestamp

/-- Whether a year has a 29th of February. -/
def isLeapYear (year : Nat) : Bool :=
  year % 4 = 0 && (year % 100 ≠ 0 || year % 400 = 0)

/-- The days of a month, none for a month that there is not. -/
def daysInMonth (year month : Nat) : Nat :=
  match month with
  | 2 => if isLeapYear year then 29 else 28
  | 4 | 6 | 9 | 11 => 30
  | 1 | 3 | 5 | 7 | 8 | 10 | 12 => 31
  | _ => 0

/-- The days of the months in front of a month. -/
def daysBeforeMonth (year month : Nat) : Nat :=
  (List.range month).foldl (fun days m => days + daysInMonth year m) 0

/-- The days of the years from 0 in front of a year. -/
def daysBeforeYear (year : Nat) : Nat :=
  365 * year + (year + 3) / 4 - (year + 99) / 100 + (year + 399) / 400

/-- Days since the first day of the year 0. -/
def dayNumber (year month day : Nat) : Nat :=
  daysBeforeYear year + daysBeforeMonth year month + (day - 1)

/-- The first day of 1970. -/
def epochDay : Nat := 719528

/-- A number of exactly so many digits off the front of a text. -/
def readFixed (width : Nat) (cs : List Char) : Option (Nat × List Char) :=
  let digits := cs.take width
  if digits.length = width ∧ digits.all Ascii.isDigit then
    some (Digit.read 10 digits, cs.drop width)
  else none

/-- One given character off the front of a text. -/
def readMark (mark : Char) : List Char → Option (List Char)
  | c :: rest => if c = mark then some rest else none
  | [] => none

/-- A date off the front of a text, as its day number. -/
def readDate (cs : List Char) : Option (Nat × List Char) := do
  let (year, cs) ← readFixed 4 cs
  let cs ← readMark '-' cs
  let (month, cs) ← readFixed 2 cs
  let cs ← readMark '-' cs
  let (day, cs) ← readFixed 2 cs
  if 1 ≤ day ∧ day ≤ daysInMonth year month then some (dayNumber year month day, cs) else none

/-- A fraction of a second off the front of a text, in nanoseconds, nothing
    when there is no point. Digits behind the ninth are dropped. -/
def readFraction : List Char → Option (Nat × List Char)
  | '.' :: rest =>
    match rest.takeWhile Ascii.isDigit with
    | [] => none
    | digits =>
      let kept := digits.take 9
      some (Digit.read 10 kept * Nat.pow 10 (9 - kept.length), rest.dropWhile Ascii.isDigit)
  | cs => some (0, cs)

/-- A time of day off the front of a text, in seconds and nanoseconds. -/
def readTime (cs : List Char) : Option ((Nat × Nat) × List Char) := do
  let (hour, cs) ← readFixed 2 cs
  let cs ← readMark ':' cs
  let (minute, cs) ← readFixed 2 cs
  let cs ← readMark ':' cs
  let (second, cs) ← readFixed 2 cs
  if 23 < hour ∨ 59 < minute ∨ 60 < second then none
  else
    let (fraction, cs) ← readFraction cs
    let whole := hour * 3600 + minute * 60
    if second = 60 then some ((whole + 59, 1000000000 + fraction), cs)
    else some ((whole + second, fraction), cs)

/-- The distance from UTC off the front of a text, in seconds to the east. -/
def readOffset (cs : List Char) : Option (Int × List Char) :=
  let distance (cs : List Char) : Option (Nat × List Char) := do
    let (hours, cs) ← readFixed 2 cs
    let cs ← readMark ':' cs
    let (minutes, cs) ← readFixed 2 cs
    if 23 < hours ∨ 59 < minutes then none else some (hours * 3600 + minutes * 60, cs)
  match cs with
  | 'Z' :: rest => some (0, rest)
  | 'z' :: rest => some (0, rest)
  | '+' :: rest => (distance rest).map fun d => (d.1, d.2)
  | '-' :: rest => (distance rest).map fun d => (-(d.1 : Int), d.2)
  | '\u2212' :: rest => (distance rest).map fun d => (-(d.1 : Int), d.2)
  | _ => none

/-- The point in time that a text denotes, none when it is malformed. -/
def parse? (text : String) : Option Timestamp := do
  let (day, cs) ← readDate text.toList
  let cs ← match cs with
    | 'T' :: rest => some rest
    | 't' :: rest => some rest
    | ' ' :: rest => some rest
    | _ => none
  let ((seconds, nanoseconds), cs) ← readTime cs
  let (offset, cs) ← readOffset cs
  if cs = [] then
    some ⟨((day : Int) - epochDay) * 86400 + seconds - offset, nanoseconds⟩
  else none

end Timestamp

end IrcHarness
