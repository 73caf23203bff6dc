import Mathlib.Data.List.TakeWhile
import Mathlib.Tactic.Positivity
import RedditKafka.Datetime.Calendar

/-!
# ISO 8601 texts

`datetime.isoformat` of a naive datetime, and `datetime.fromisoformat` for the
formats that its documentation names: what is written can be read back. Malformed
texts are refused, also the few that the parser of CPython happens to let pass,
such as a stray character in front of an offset.
-/
namespace Gregorian

/-! ## Digits -/

/-- The value of an ASCII digit. -/
def digit (c : Char) : Option Nat := if c.isDigit then some (c.toNat - '0'.toNat) else none

/-- `width` digits, as a number behind the digits already read. -/
def digits : Nat → Nat → List Char → Option (Nat × List Char)
  | 0, read, rest => some (read, rest)
  | _ + 1, _, [] => none
  | width + 1, read, c :: rest => (digit c).bind fun d => digits width (10 * read + d) rest

def padded : Nat → Nat → List Char
  | 0, _ => []
  | width + 1, n => Nat.digitChar (n / 10 ^ width) :: padded width (n % 10 ^ width)

/-! ## Writing -/

def Date.isochars (d : Date) : List Char :=
  padded 4 d.year ++ '-' :: (padded 2 d.month ++ '-' :: padded 2 d.day)

namespace NaiveDatetime

/-- The part behind the separator. -/
def timeChars (d : NaiveDatetime) : List Char :=
  padded 2 d.hour ++ ':' :: (padded 2 d.minute ++ ':' :: (padded 2 d.second ++
    if d.microsecond = 0 then [] else '.' :: padded 6 d.microsecond))

def isochars (d : NaiveDatetime) : List Char := d.date.isochars ++ 'T' :: d.timeChars

def isoformat (d : NaiveDatetime) : String := String.ofList d.isochars

end NaiveDatetime

/-! ## Reading -/

/-- Where the character between date and time stands. It may be any character, so the form of the
date decides. -/
def separatorLocation (text : List Char) : Option Nat :=
  if text.length = 7 then some 7
  else if text[4]? = some '-' then
    if text[5]? = some 'W' then
      if text[8]? = some '-' then
        if text.length = 9 then none
        -- a digit at 10 belongs to the time, and the hyphen at 8 is the separator
        else if text[10]?.any Char.isDigit then some 8
        else some 10
      else some 8
    else some 10
  else if text[4]? = some 'W' then
    -- the pairs of digits of the time leave an even number for the week, and an odd one with a day
    let run := 7 + ((text.drop 7).takeWhile Char.isDigit).length
    if run < 9 then some run
    else if run % 2 = 0 then some 7
    else some 8
  else some 8

/-- `ww` or `wwD`, or with hyphens `ww-D`. -/
def parseWeek (year : Nat) (hyphens : Bool) (text : List Char) : Option Date := do
  let (week, rest) ← digits 2 0 text
  match hyphens, rest with
  | _, [] => Date.ofIsoWeek year week 1
  | true, '-' :: [d] => (digit d).bind (Date.ofIsoWeek year week)
  | false, [d] => (digit d).bind (Date.ofIsoWeek year week)
  | _, _ => none

/-- `YYYY-MM-DD`, `YYYYMMDD`, or a week. -/
def parseDate (text : List Char) : Option Date := do
  let (year, rest) ← digits 4 0 text
  match rest with
  | '-' :: 'W' :: rest => parseWeek year true rest
  | 'W' :: rest => parseWeek year false rest
  | '-' :: rest =>
      match ← digits 2 0 rest with
      | (month, '-' :: rest) =>
          match ← digits 2 0 rest with
          | (day, []) => Date.of? year month day
          | _ => none
      | _ => none
  | rest =>
      let (month, rest) ← digits 2 0 rest
      match ← digits 2 0 rest with
      | (day, []) => Date.of? year month day
      | _ => none

/-- Microseconds; further digits are cut off. -/
def parseFraction : List Char → Option Nat
  | [] => some 0
  | point :: fraction =>
      if (point = '.' ∨ point = ',') ∧ fraction ≠ [] ∧ fraction.all Char.isDigit then
        let width := min fraction.length 6
        (digits width 0 fraction).map fun read => read.1 * 10 ^ (6 - width)
      else none

/-- Hours, minutes, seconds and microseconds, of a time or of an offset. -/
structure Clock where
  hour : Nat
  minute : Nat := 0
  second : Nat := 0
  microsecond : Nat := 0
  deriving DecidableEq, Repr

/-- `HH`, `HH:MM` or `HH:MM:SS` with a fraction, with all colons or without any. -/
def parseClock (text : List Char) : Option Clock := do
  let (hour, rest) ← digits 2 0 text
  match rest with
  | [] => some { hour }
  | ':' :: rest =>
      match ← digits 2 0 rest with
      | (minute, []) => some { hour, minute }
      | (minute, ':' :: rest) =>
          let (second, rest) ← digits 2 0 rest
          (parseFraction rest).map fun microsecond => { hour, minute, second, microsecond }
      | _ => none
  | rest =>
      match ← digits 2 0 rest with
      | (minute, []) => some { hour, minute }
      | (minute, rest) =>
          let (second, rest) ← digits 2 0 rest
          (parseFraction rest).map fun microsecond => { hour, minute, second, microsecond }

def Clock.microseconds (t : Clock) : Nat :=
  ((t.hour * 60 + t.minute) * 60 + t.second) * 10 ^ 6 + t.microsecond

/-- Nothing, `Z`, or a sign and a time. -/
def parseOffset : List Char → Option (Option Offset)
  | [] => some none
  | ['Z'] => some (some Offset.utc)
  | '+' :: text => do return some (← Offset.of? (← parseClock text).microseconds)
  | '-' :: text => do return some (← Offset.of? (-(← parseClock text).microseconds))
  | _ => none

def startsOffset (c : Char) : Bool := c = '+' || c = '-' || c = 'Z'

def parseTime (date : Date) (text : List Char) : Option Datetime := do
  let t ← parseClock (text.takeWhile fun c => !startsOffset c)
  let utcoffset ← parseOffset (text.dropWhile fun c => !startsOffset c)
  let naive ← NaiveDatetime.of? date t.hour t.minute t.second t.microsecond
  return { naive, utcoffset }

def midnight (date : Date) : Datetime where
  naive :=
    { date, hour := 0, minute := 0, second := 0, microsecond := 0
      hour_lt := by decide, minute_lt := by decide, second_lt := by decide
      microsecond_lt := by decide }
  utcoffset := none

def readIsoformat (text : List Char) : Option Datetime := do
  let location ← separatorLocation text
  let date ← parseDate (text.take location)
  match text.drop location with
  | [] => some (midnight date)
  | _ :: time => parseTime date time

/-- `none` stands for a `ValueError`. -/
def fromisoformat (text : String) : Option Datetime := readIsoformat text.toList

/-! ## Reading what was written -/

theorem digit_digitChar {d : Nat} (lt : d < 10) : digit (Nat.digitChar d) = some d := by
  revert d
  decide

theorem digitChar_ne {d : Nat} (lt : d < 10) {c : Char} (other : digit c = none) :
    Nat.digitChar d ≠ c := by
  rintro rfl
  cases (digit_digitChar lt).symm.trans other

theorem digits_padded_behind {width n : Nat} (lt : n < 10 ^ width) (read : Nat) (rest : List Char) :
    digits width read (padded width n ++ rest) = some (read * 10 ^ width + n, rest) := by
  induction width generalizing n read with
  | zero =>
      obtain rfl : n = 0 := by omega
      simp [padded, digits]
  | succ width ih =>
      have small : n / 10 ^ width < 10 := by
        rw [Nat.div_lt_iff_lt_mul (by positivity)]
        rwa [pow_succ, mul_comm] at lt
      rw [padded, List.cons_append, digits, digit_digitChar small, Option.bind_some,
        ih (Nat.mod_lt n (by positivity)), add_mul, add_assoc, Nat.mul_comm (n / 10 ^ width),
        Nat.div_add_mod, pow_succ, Nat.mul_comm (10 ^ width), ← Nat.mul_assoc, Nat.mul_comm read]

theorem digits_padded {width n : Nat} (lt : n < 10 ^ width) (rest : List Char) :
    digits width 0 (padded width n ++ rest) = some (n, rest) := by
  rw [digits_padded_behind lt, Nat.zero_mul, Nat.zero_add]

theorem digits_padded_last {width n : Nat} (lt : n < 10 ^ width) :
    digits width 0 (padded width n) = some (n, []) := by
  simpa using digits_padded lt []

@[simp] theorem length_padded (width n : Nat) : (padded width n).length = width := by
  induction width generalizing n with
  | zero => rfl
  | succ width ih => rw [padded, List.length_cons, ih]

/-- What is written for a number has nothing in it but digits. -/
theorem digit_of_mem_padded {width n : Nat} (lt : n < 10 ^ width) {c : Char}
    (member : c ∈ padded width n) : ∃ d < 10, c = Nat.digitChar d := by
  induction width generalizing n with
  | zero => cases member
  | succ width ih =>
      have small : n / 10 ^ width < 10 := by
        rw [Nat.div_lt_iff_lt_mul (by positivity)]
        rwa [pow_succ, mul_comm] at lt
      rcases List.mem_cons.mp member with rfl | later
      · exact ⟨_, small, rfl⟩
      · exact ih (Nat.mod_lt n (by positivity)) later

theorem isDigit_digitChar {d : Nat} (lt : d < 10) : (Nat.digitChar d).isDigit = true := by
  revert d
  decide

theorem startsOffset_digitChar {d : Nat} (lt : d < 10) : startsOffset (Nat.digitChar d) = false := by
  revert d
  decide

namespace Date

theorem length_isochars (d : Date) : d.isochars.length = 10 := by simp [isochars]

/-- The month is written behind the first hyphen, and it is no week. -/
theorem isochars_month (d : Date) : ∃ c rest, padded 2 d.month = c :: rest ∧ c ≠ 'W' := by
  have small : d.month / 10 ^ 1 < 10 := by
    have := d.month_valid
    omega
  exact ⟨_, _, rfl, digitChar_ne small rfl⟩

theorem parseDate_isochars (d : Date) : parseDate d.isochars = some d := by
  have year : d.year < 10 ^ 4 := by have := d.year_valid; omega
  have month : d.month < 10 ^ 2 := by have := d.month_valid; omega
  have day : d.day < 10 ^ 2 := by have := d.day_le; omega
  have readMonth := digits_padded month ('-' :: padded 2 d.day)
  obtain ⟨c, rest, first, week⟩ := d.isochars_month
  rw [first, List.cons_append] at readMonth
  simp [parseDate, isochars, digits_padded year, first, readMonth, digits_padded_last day, week]

theorem separator_isochars (d : Date) (time : List Char) :
    separatorLocation (d.isochars ++ 'T' :: time) = some 10 := by
  obtain ⟨c, rest, first, week⟩ := d.isochars_month
  have long : (d.isochars ++ 'T' :: time).length ≠ 7 := by
    simp only [List.length_append, length_isochars, List.length_cons]
    omega
  have hyphen : (d.isochars ++ 'T' :: time)[4]? = some '-' := by
    simp [isochars]
  have next : (d.isochars ++ 'T' :: time)[5]? ≠ some 'W' := by
    simp [isochars, List.getElem?_append, first, week]
  rw [separatorLocation, if_neg long, if_pos hyphen, if_neg next]

end Date

theorem parseFraction_padded {n : Nat} (lt : n < 10 ^ 6) :
    parseFraction ('.' :: padded 6 n) = some n := by
  have written : padded 6 n ≠ [] := by simp [← List.length_pos_iff]
  have all : (padded 6 n).all Char.isDigit = true := by
    rw [List.all_eq_true]
    intro c member
    obtain ⟨d, small, rfl⟩ := digit_of_mem_padded lt member
    exact isDigit_digitChar small
  simp [parseFraction, digits_padded_last lt, all, written]

namespace NaiveDatetime

theorem parseClock_timeChars (d : NaiveDatetime) : parseClock d.timeChars =
    some { hour := d.hour, minute := d.minute, second := d.second, microsecond := d.microsecond } := by
  have hour : d.hour < 10 ^ 2 := by have := d.hour_lt; omega
  have minute : d.minute < 10 ^ 2 := by have := d.minute_lt; omega
  have second : d.second < 10 ^ 2 := by have := d.second_lt; omega
  by_cases whole : d.microsecond = 0
  · simp [parseClock, timeChars, digits_padded hour, digits_padded minute,
      digits_padded_last second, whole, parseFraction]
  · simp [parseClock, timeChars, digits_padded hour, digits_padded minute,
      digits_padded second, whole, parseFraction_padded d.microsecond_lt]

theorem timeChars_noOffset (d : NaiveDatetime) : ∀ c ∈ d.timeChars, startsOffset c = false := by
  have plain {width n : Nat} (lt : n < 10 ^ width) : ∀ c ∈ padded width n, startsOffset c = false := by
    intro c member
    obtain ⟨d, small, rfl⟩ := digit_of_mem_padded lt member
    exact startsOffset_digitChar small
  have hour : d.hour < 10 ^ 2 := by have := d.hour_lt; omega
  have minute : d.minute < 10 ^ 2 := by have := d.minute_lt; omega
  have second : d.second < 10 ^ 2 := by have := d.second_lt; omega
  have fraction : ∀ c ∈ if d.microsecond = 0 then [] else '.' :: padded 6 d.microsecond,
      startsOffset c = false := by
    split
    · exact nofun
    · exact List.forall_mem_cons.mpr ⟨rfl, plain d.microsecond_lt⟩
  simp only [timeChars, List.forall_mem_append, List.forall_mem_cons]
  exact ⟨plain hour, rfl, plain minute, rfl, plain second, fraction⟩

theorem parseTime_timeChars (d : NaiveDatetime) :
    parseTime d.date d.timeChars = some { naive := d, utcoffset := none } := by
  have time : ∀ c ∈ d.timeChars, (!startsOffset c) = true := by
    intro c member
    rw [d.timeChars_noOffset c member]
    rfl
  rw [parseTime, List.takeWhile_eq_self_iff.mpr time, List.dropWhile_eq_nil_iff.mpr time,
    parseClock_timeChars]
  simp [parseOffset]

/-- A naive datetime can be read back from its text. -/
theorem fromisoformat_isoformat (d : NaiveDatetime) :
    fromisoformat d.isoformat = some { naive := d, utcoffset := none } := by
  have length := d.date.length_isochars
  simp only [fromisoformat, isoformat, String.toList_ofList, readIsoformat, isochars,
    Date.separator_isochars, Option.bind_eq_bind, Option.bind_some]
  rw [← length, List.take_left, Date.parseDate_isochars, List.drop_left]
  exact parseTime_timeChars d

theorem isoformat_injective {d d' : NaiveDatetime} (same : d.isoformat = d'.isoformat) : d = d' := by
  have read := fromisoformat_isoformat d
  rw [same, fromisoformat_isoformat d'] at read
  exact (congrArg Datetime.naive (Option.some.inj read)).symm

end NaiveDatetime
end Gregorian
