import Mathlib.Algebra.Group.Int.Defs
import Mathlib.Algebra.Group.Nat.Defs

/-!
# Dates and times

The Gregorian calendar from year 1 to year 9999, as Python's `datetime` counts
it: naive datetimes, datetimes that may carry a UTC offset, and their instants.
-/
namespace Gregorian

def isLeap (year : Nat) : Bool :=
  year % 4 = 0 && (year % 100 ≠ 0 || year % 400 = 0)

def daysInMonth (year month : Nat) : Nat :=
  if month = 2 then if isLeap year then 29 else 28
  else if month = 4 ∨ month = 6 ∨ month = 9 ∨ month = 11 then 30
  else 31

def daysInYear (year : Nat) : Nat := if isLeap year then 366 else 365

/-- The days before January 1st of the year. -/
def daysBeforeYear (year : Nat) : Nat :=
  let y := year - 1
  y * 365 + y / 4 - y / 100 + y / 400

def daysBeforeMonth (year : Nat) : Nat → Nat
  | 0 => 0
  | 1 => 0
  | month + 1 => daysBeforeMonth year month + daysInMonth year month

structure Date where
  year : Nat
  month : Nat
  day : Nat
  year_valid : 1 ≤ year ∧ year ≤ 9999
  month_valid : 1 ≤ month ∧ month ≤ 12
  day_valid : 1 ≤ day ∧ day ≤ daysInMonth year month
  deriving DecidableEq, Repr

namespace Date

def of? (year month day : Nat) : Option Date :=
  if h : (1 ≤ year ∧ year ≤ 9999) ∧ (1 ≤ month ∧ month ≤ 12) ∧ 1 ≤ day ∧ day ≤ daysInMonth year month then
    some ⟨year, month, day, h.1, h.2.1, h.2.2⟩
  else none

@[simp] theorem of?_self (d : Date) : of? d.year d.month d.day = some d :=
  dif_pos ⟨d.year_valid, d.month_valid, d.day_valid⟩

/-- January 1st of year 1 is day 1. -/
def toordinal (d : Date) : Nat := daysBeforeYear d.year + daysBeforeMonth d.year d.month + d.day

theorem day_le (d : Date) : d.day ≤ 31 := by
  apply Nat.le_trans d.day_valid.2
  unfold daysInMonth
  split
  · split <;> omega
  · split <;> omega

/-- The day that lies `days` days behind the first of the month, in one of the next `months`
months. -/
def inMonths (year : Nat) : Nat → Nat → Nat → Option Date
  | 0, _, _ => none
  | months + 1, month, days =>
      if days < daysInMonth year month then of? year month (days + 1)
      else inMonths year months (month + 1) (days - daysInMonth year month)

/-- The day that lies `days` days behind January 1st of the year, at most one year off. -/
def ofYearDay (year : Nat) (days : ℤ) : Option Date :=
  if days < 0 then inMonths (year - 1) 12 1 (days + daysInYear (year - 1)).toNat
  else if days < daysInYear year then inMonths year 12 1 days.toNat
  else inMonths (year + 1) 12 1 (days - daysInYear year).toNat

/-- The weekday of January 1st; Monday is 0. -/
def firstWeekday (year : Nat) : Nat := (daysBeforeYear year) % 7

/-- A year has 53 weeks if it begins on a Thursday, or on a Wednesday and is a leap year. -/
def weeks (year : Nat) : Nat :=
  if firstWeekday year = 3 ∨ firstWeekday year = 2 ∧ isLeap year then 53 else 52

/-- The day of an ISO week; week 1 is the one that holds the first Thursday. -/
def ofIsoWeek (year week day : Nat) : Option Date :=
  if (1 ≤ year ∧ year ≤ 9999) ∧ (1 ≤ week ∧ week ≤ weeks year) ∧ 1 ≤ day ∧ day ≤ 7 then
    let monday : ℤ := if firstWeekday year ≤ 3 then -firstWeekday year else 7 - firstWeekday year
    ofYearDay year (monday + 7 * (week - 1) + (day - 1))
  else none

end Date

/-- A datetime without a time zone. -/
structure NaiveDatetime where
  date : Date
  hour : Nat
  minute : Nat
  second : Nat
  microsecond : Nat
  hour_lt : hour < 24
  minute_lt : minute < 60
  second_lt : second < 60
  microsecond_lt : microsecond < 10 ^ 6
  deriving DecidableEq, Repr

namespace NaiveDatetime

def of? (date : Date) (hour minute second microsecond : Nat) : Option NaiveDatetime :=
  if h : hour < 24 ∧ minute < 60 ∧ second < 60 ∧ microsecond < 10 ^ 6 then
    some ⟨date, hour, minute, second, microsecond, h.1, h.2.1, h.2.2.1, h.2.2.2⟩
  else none

@[simp] theorem of?_self (d : NaiveDatetime) :
    of? d.date d.hour d.minute d.second d.microsecond = some d :=
  dif_pos ⟨d.hour_lt, d.minute_lt, d.second_lt, d.microsecond_lt⟩

/-- In UTC, in microseconds. -/
def instant (d : NaiveDatetime) : ℤ :=
  (((d.date.toordinal * 24 + d.hour) * 60 + d.minute) * 60 + d.second) * 10 ^ 6 + d.microsecond

end NaiveDatetime

/-- An offset from UTC, in microseconds. -/
structure Offset where
  microseconds : ℤ
  above : -(24 * 60 * 60 * 10 ^ 6) < microseconds
  below : microseconds < 24 * 60 * 60 * 10 ^ 6
  deriving DecidableEq, Repr

def Offset.of? (microseconds : ℤ) : Option Offset :=
  if h : -(24 * 60 * 60 * 10 ^ 6) < microseconds ∧ microseconds < 24 * 60 * 60 * 10 ^ 6 then
    some ⟨microseconds, h.1, h.2⟩
  else none

def Offset.utc : Offset := ⟨0, by decide, by decide⟩

/-- A datetime; `replace(tzinfo=None)` is its first field. -/
structure Datetime where
  naive : NaiveDatetime
  utcoffset : Option Offset
  deriving DecidableEq, Repr

namespace Datetime

/-- The offset in microseconds, where a naive datetime means UTC. -/
def shift (d : Datetime) : ℤ :=
  match d.utcoffset with
  | none => 0
  | some offset => offset.microseconds

def instant (d : Datetime) : ℤ := d.naive.instant - d.shift

/-- The naive datetime is that of the instant in UTC. -/
theorem instant_naive_iff (d : Datetime) : d.naive.instant = d.instant ↔ d.shift = 0 := by
  unfold instant
  omega

end Datetime
end Gregorian
