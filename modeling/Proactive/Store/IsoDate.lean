import Mathlib.Data.Nat.Notation

/-! `date.fromisoformat`: calendar dates and week dates, with and without dashes, as the
number of days from the year 1 on. -/
namespace Proactive.Store.IsoDate

def leapYear (year : Nat) : Bool := year % 4 = 0 && (year % 100 ≠ 0 || year % 400 = 0)

def daysInMonth (year month : Nat) : Nat :=
  if month = 2 then (if leapYear year then 29 else 28)
  else if month = 4 ∨ month = 6 ∨ month = 9 ∨ month = 11 then 30 else 31

def daysBeforeYear (year : Nat) : Nat := (year - 1) * 365 + (year - 1) / 4 - (year - 1) / 100 + (year - 1) / 400

def daysBeforeMonth (year month : Nat) : Nat :=
  (List.range (month - 1)).foldl (fun days earlier => days + daysInMonth year (earlier + 1)) 0

def toOrdinal (year month day : Nat) : Nat := daysBeforeYear year + daysBeforeMonth year month + day

/-- 31 December 9999. -/
def maxOrdinal : Nat := 3652059

def ofCalendar (year month day : Nat) : Option Nat :=
  if 1 ≤ year ∧ 1 ≤ month ∧ month ≤ 12 ∧ 1 ≤ day ∧ day ≤ daysInMonth year month then
    some (toOrdinal year month day)
  else none

/-- Monday of the first ISO week. -/
def isoWeek1Monday (year : Nat) : Nat :=
  let first := toOrdinal year 1 1
  let weekday := (first + 6) % 7
  if weekday > 3 then first - weekday + 7 else first - weekday

/-- Years that start on a Thursday, and leap years that start on a Wednesday. -/
def hasWeek53 (year : Nat) : Bool :=
  let first := toOrdinal year 1 1 % 7
  first = 4 || (first = 3 && leapYear year)

def ofWeek (year week day : Nat) : Option Nat :=
  if 1 ≤ year ∧ 1 ≤ week ∧ (week ≤ 52 ∨ (week = 53 ∧ hasWeek53 year)) ∧ 1 ≤ day ∧ day ≤ 7 then
    let ordinal := isoWeek1Monday year + (week - 1) * 7 + (day - 1)
    if ordinal ≤ maxOrdinal then some ordinal else none
  else none

def number (digits : List Char) : Option Nat :=
  if digits.all Char.isDigit then
    some (digits.foldl (fun value digit => value * 10 + (digit.toNat - '0'.toNat)) 0)
  else none

/-- The parser takes the date off the front of the text, of which it knows the length in bytes; what
stands after a date without dashes is not looked at. -/
def fromIsoFormat (text : String) : Option Nat :=
  if text.utf8ByteSize ∈ [7,8,10] then
    match text.toList with
    | y1::y2::y3::y4::rest => do
      let year ← number [y1,y2,y3,y4]
      match rest with
      | ['-','W',w1,w2] => ofWeek year (← number [w1,w2]) 1
      | '-' :: 'W' :: w1 :: w2 :: '-' :: d :: _ => ofWeek year (← number [w1,w2]) (← number [d])
      | ['W',w1,w2] => ofWeek year (← number [w1,w2]) 1
      | 'W'::w1::w2::d::_ => ofWeek year (← number [w1,w2]) (← number [d])
      | '-' :: m1 :: m2 :: '-' :: d1 :: d2 :: _ => ofCalendar year (← number [m1,m2]) (← number [d1,d2])
      | m1::m2::d1::d2::_ => ofCalendar year (← number [m1,m2]) (← number [d1,d2])
      | _ => none
    | _ => none
  else none

example : fromIsoFormat "9999-12-31" = some maxOrdinal := by decide +kernel

example : fromIsoFormat "20260301-x" = fromIsoFormat "2026-03-01" := by decide +kernel

end Proactive.Store.IsoDate
