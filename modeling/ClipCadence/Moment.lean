import ClipCadence.Number.Numeral

/-!
Moments of local time in the years 1 to 9999. A moment is the number of microseconds since the
first of them, so that a clock advances by addition and the time between two moments is their
difference; the calendar and the time of day are read off that number.
-/

namespace ClipCadence

open Number

namespace Calendar

def isLeap (year : Nat) : Bool :=
  year % 4 = 0 && (year % 100 ≠ 0 || year % 400 = 0)

def monthLengths (leap : Bool) : List Nat :=
  [31, if leap then 29 else 28, 31, 30, 31, 30, 31, 31, 30, 31, 30, 31]

def yearLength (leap : Bool) : Nat := if leap then 366 else 365

/-- The days of the calendar, from the first of January of the year 1. -/
def dayCount : Nat := 3652059

def daysBeforeYear (year : Nat) : Nat :=
  let past := year - 1
  past * 365 + past / 4 - past / 100 + past / 400

def monthLength (year month : Nat) : Nat := (monthLengths (isLeap year)).getD (month - 1) 0

def daysBeforeMonth (year month : Nat) : Nat :=
  ((monthLengths (isLeap year)).take (month - 1)).foldr (· + ·) 0

/-- The number of a day, counted from zero. -/
def dayNumber (year month day : Nat) : Nat :=
  daysBeforeYear year + daysBeforeMonth year month + (day - 1)

/-- The month and the day in it that the days of a year lead to. -/
def monthAndDay : (month : Nat) → List Nat → Nat → Nat × Nat
  | month, [], days => (month, days + 1)
  | month, length :: rest, days =>
    if days < length then (month, days + 1) else monthAndDay (month + 1) rest (days - length)

/-- The year, month and day of a day number. -/
def date (number : Nat) : Nat × Nat × Nat :=
  let inEra := number % 146097
  let centuries := min 3 (inEra / 36524)
  let inCentury := inEra - centuries * 36524
  let inCycle := inCentury % 1461
  let years := min 3 (inCycle / 365)
  let year := number / 146097 * 400 + centuries * 100 + inCentury / 1461 * 4 + years + 1
  let (month, day) := monthAndDay 1 (monthLengths (isLeap year)) (inCycle - years * 365)
  (year, month, day)

theorem month_fits : ∀ (leap : Bool) (month : Fin 12),
    ((monthLengths leap).take month).foldr (· + ·) 0 + (monthLengths leap).getD month 0 ≤
      yearLength leap := by
  decide

theorem dayNumber_lt {year month day : Nat} (hy : 1 ≤ year) (hy' : year ≤ 9999)
    (hm : 1 ≤ month) (hm' : month ≤ 12) (hd : 1 ≤ day) (hd' : day ≤ monthLength year month) :
    dayNumber year month day < dayCount := by
  have fits := month_fits (isLeap year) ⟨month - 1, by omega⟩
  simp only [monthLength] at hd'
  simp only [dayNumber, daysBeforeMonth, daysBeforeYear, dayCount]
  simp only [yearLength] at fits
  cases hleap : isLeap year
  · simp only [hleap] at fits hd' ⊢
    simp only [Bool.false_eq_true, ↓reduceIte] at fits
    omega
  · simp only [hleap] at fits hd' ⊢
    simp only [↓reduceIte] at fits
    simp only [isLeap, Bool.and_eq_true, decide_eq_true_eq] at hleap
    omega

end Calendar

def microsPerSecond : Nat := 1000000

def microsPerDay : Nat := 86400 * microsPerSecond

structure Moment where
  micros : Nat
  inCalendar : micros < Calendar.dayCount * microsPerDay
  deriving DecidableEq

/-- The first part of a moment that does not exist. -/
inductive MomentError where
  | year (given : Int)
  | month
  | day
  | hour
  | minute
  | second
  | microsecond
  deriving DecidableEq, Repr

namespace MomentError

def message : MomentError → String
  | .year given => "year " ++ String.ofList (Numeral.write given) ++ " is out of range"
  | .month => "month must be in 1..12"
  | .day => "day is out of range for month"
  | .hour => "hour must be in 0..23"
  | .minute => "minute must be in 0..59"
  | .second => "second must be in 0..59"
  | .microsecond => "microsecond must be in 0..999999"

end MomentError

namespace Moment

instance : Inhabited Moment := ⟨⟨0, by decide⟩⟩

/-- A part of a moment that must lie in a range. -/
def part (low high : Nat) (error : MomentError) (given : Int) :
    Except MomentError { n : Nat // low ≤ n ∧ n ≤ high } :=
  if h : (low : Int) ≤ given ∧ given ≤ high then .ok ⟨given.toNat, by omega⟩ else .error error

/-- The moment with the given parts, which are checked from the largest to the smallest. -/
def ofParts (year month day hour minute second micro : Int) : Except MomentError Moment := do
  let ⟨year, hy⟩ ← part 1 9999 (.year year) year
  let ⟨month, hm⟩ ← part 1 12 .month month
  let ⟨day, hd⟩ ← part 1 (Calendar.monthLength year month) .day day
  let ⟨hour, hh⟩ ← part 0 23 .hour hour
  let ⟨minute, hi⟩ ← part 0 59 .minute minute
  let ⟨second, hs⟩ ← part 0 59 .second second
  let ⟨micro, hu⟩ ← part 0 999999 .microsecond micro
  have inCalendar := Calendar.dayNumber_lt hy.1 hy.2 hm.1 hm.2 hd.1 hd.2
  return {
    micros := Calendar.dayNumber year month day * microsPerDay +
      ((hour * 60 + minute) * 60 + second) * microsPerSecond + micro
    inCalendar := by simp only [microsPerDay, microsPerSecond]; omega }

def dayNumber (m : Moment) : Nat := m.micros / microsPerDay

def secondOfDay (m : Moment) : Nat := m.micros % microsPerDay / microsPerSecond

def hour (m : Moment) : Nat := m.secondOfDay / 3600

def minute (m : Moment) : Nat := m.secondOfDay / 60 % 60

def second (m : Moment) : Nat := m.secondOfDay % 60

def microsecond (m : Moment) : Nat := m.micros % microsPerSecond

/-- The time of day as `HH:MM:SS`. -/
def clock (m : Moment) : List Char :=
  Numeral.padded 2 m.hour ++ ':' :: Numeral.padded 2 m.minute ++ ':' :: Numeral.padded 2 m.second

/-- Date and time of day; the microseconds are left out if there are none. -/
def iso (m : Moment) : String :=
  let (year, month, day) := Calendar.date m.dayNumber
  let fraction := if m.microsecond = 0 then [] else '.' :: Numeral.padded 6 m.microsecond
  String.ofList (Numeral.padded 4 year ++ '-' :: Numeral.padded 2 month ++
    '-' :: Numeral.padded 2 day ++ 'T' :: m.clock ++ fraction)

/-- The moment some microseconds later, if the calendar reaches that far. -/
def later? (m : Moment) (micros : Int) : Option Moment :=
  let target := m.micros + micros
  if h : 0 ≤ target ∧ target < (Calendar.dayCount * microsPerDay : Nat) then
    some ⟨target.toNat, by omega⟩
  else none

/-- The microseconds from one moment to another. -/
def elapsed (start finish : Moment) : Int := finish.micros - start.micros

end Moment

end ClipCadence
