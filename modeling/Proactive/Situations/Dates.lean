import Proactive.Store.Models

/-! Local calendar days of one timezone, over instants in microseconds. -/
namespace Proactive.Situations
open Proactive.Store

/-- The exceptions of the language runtime that the modelled readers and
detectors can meet. -/
inductive Raised | overflowError | valueError | keyError
deriving DecidableEq, Repr

def day : Int := 86400 * second

/-- The first and the last instant that a `datetime` in UTC can name. -/
def firstInstant : Int := -719162 * day

def lastInstant : Int := 2932897 * day - 1

def representable (instant : Int) : Bool := firstInstant ≤ instant && instant ≤ lastInstant

/-- Year, month and day of a day number, in the proleptic Gregorian calendar. -/
def civil (date : Int) : Int × Int × Int :=
  let shifted := date + 719468
  let era := shifted / 146097
  let dayOfEra := shifted % 146097
  let yearOfEra := (dayOfEra - dayOfEra / 1460 + dayOfEra / 36524 - dayOfEra / 146096) / 365
  let dayOfYear := dayOfEra - (365 * yearOfEra + yearOfEra / 4 - yearOfEra / 100)
  let month := (5 * dayOfYear + 2) / 153
  let year := yearOfEra + era * 400
  if month < 10 then (year,month + 3,dayOfYear - (153 * month + 2) / 5 + 1)
  else (year + 1,month - 9,dayOfYear - (153 * month + 2) / 5 + 1)

def zeroPadded (width : Nat) (value : Int) : String :=
  let digits := toString value
  String.ofList (List.replicate (width - digits.length) '0') ++ digits

def isoDate (date : Int) : String :=
  let (year,month,dayOfMonth) := civil date
  zeroPadded 4 year ++ "-" ++ zeroPadded 2 month ++ "-" ++ zeroPadded 2 dayOfMonth

/-- `strftime("%H:%M")` of a wall clock time. -/
def clockTime (wall : Int) : String :=
  let minutes := wall % day / (60 * second)
  zeroPadded 2 (minutes / 60) ++ ":" ++ zeroPadded 2 (minutes % 60)

/-- `datetime.isoformat` of an instant in UTC. -/
def isoInstant (instant : Int) : String :=
  let seconds := instant % day / second
  let micros := instant % second
  isoDate (instant / day) ++ "T" ++ clockTime instant ++ ":" ++ zeroPadded 2 (seconds % 60) ++
    (if micros = 0 then "" else "." ++ zeroPadded 6 micros) ++ "+00:00"

example : isoInstant (1783760400 * second + 5) = "2026-07-11T09:00:00.000005+00:00" := by decide +kernel

/-- A `tzinfo`: the offset at an instant, and the offset that a wall clock time
with `fold = 0` stands for. -/
structure TimeZone where
  offsetAt : Int → Int
  offsetOf : Int → Int

namespace TimeZone

def utc : TimeZone := ⟨fun _ => 0,fun _ => 0⟩

/-- `astimezone(tz)`, as wall clock microseconds. -/
def localTime (zone : TimeZone) (now : Int) : Int := now + zone.offsetAt now

def localDate (zone : TimeZone) (now : Int) : Int := zone.localTime now / day

def localDayStart (zone : TimeZone) (date : Int) : Int := date * day - zone.offsetOf (date * day)

def localDayEnd (zone : TimeZone) (date : Int) : Int := zone.localDayStart (date + 1)

/-- `local_day_start`, which raises when UTC cannot name the instant. -/
def checkedLocalDayStart (zone : TimeZone) (date : Int) : Except Raised Int :=
  if representable (zone.localDayStart date) then .ok (zone.localDayStart date)
  else .error .overflowError

/-- `astimezone(tz)`, which raises when the wall clock leaves the years of a `datetime`. -/
def checkedLocalTime (zone : TimeZone) (now : Int) : Except Raised Int :=
  if representable (zone.localTime now) then .ok (zone.localTime now) else .error .overflowError

def covers (zone : TimeZone) (date now : Int) : Bool :=
  zone.localDayStart date ≤ now && now < zone.localDayEnd date

/-- The window of the local date covers the instant, and no other window does. -/
def Regular (zone : TimeZone) (now : Int) : Prop :=
  ∀ date, zone.covers date now = true ↔ date = zone.localDate now

theorem utc_regular (now : Int) : utc.Regular now := by
  intro date
  unfold covers localDayEnd localDayStart localDate localTime utc day second
  rw [Bool.and_eq_true,decide_eq_true_eq,decide_eq_true_eq]
  dsimp only
  omega

end TimeZone
end Proactive.Situations
