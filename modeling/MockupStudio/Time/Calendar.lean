/-
Dates of the calendar, of any year.

* `Date`: a year, a month and a day; `Date.isValid` holds of those that
  exist;
* `Date.dayNumber`: the days since the first of January 1970;
* `Date.ofDayNumber`: the date of a day number.

Both directions count years from the first of March, so that a leap day is
the last day of its year.
-/
namespace MockupStudio

/-- A date. -/
structure Date where
  year : Int
  month : Nat
  day : Nat
  deriving Repr, DecidableEq, Inhabited

/-- Whether a year has a leap day. -/
def isLeapYear (year : Int) : Bool :=
  year % 4 = 0 && (year % 100 ≠ 0 || year % 400 = 0)

/-- The number of days of a month. -/
def daysInMonth (year : Int) (month : Nat) : Nat :=
  if month = 2 then if isLeapYear year then 29 else 28
  else if month = 4 ∨ month = 6 ∨ month = 9 ∨ month = 11 then 30 else 31

namespace Date

/-- Whether there is such a date. -/
def isValid (d : Date) : Bool :=
  1 ≤ d.month && d.month ≤ 12 && 1 ≤ d.day && d.day ≤ daysInMonth d.year d.month

/-- Days from the first of March of the year 0 to the first of January 1970. -/
def epochDay : Int := 719468

/-- The days before a month, of those that begin in March. -/
def daysBeforeMonth (monthsSinceMarch : Nat) : Nat := (153 * monthsSinceMarch + 2) / 5

/-- The days before a year that begins in March. -/
def daysBeforeYear (year : Int) : Int := 365 * year + year / 4 - year / 100 + year / 400

/-- The days since the first of January 1970. -/
def dayNumber (d : Date) : Int :=
  let year := if d.month ≤ 2 then d.year - 1 else d.year
  let month := (d.month + 9) % 12
  daysBeforeYear year + daysBeforeMonth month + (d.day - 1 : Nat) - epochDay

/-- The year of 400 to which a day of such a cycle belongs. -/
def yearOfCycle (day : Nat) : Nat := (day - day / 1460 + day / 36524 - day / 146096) / 365

/-- The date of a day number. -/
def ofDayNumber (number : Int) : Date :=
  let days := number + epochDay
  let cycle := days / 146097
  let day := (days % 146097).toNat
  let yearInCycle := yearOfCycle day
  let dayOfYear := day - (365 * yearInCycle + yearInCycle / 4 - yearInCycle / 100)
  let month := (5 * dayOfYear + 2) / 153
  let year := 400 * cycle + yearInCycle
  ⟨if month < 10 then year else year + 1, if month < 10 then month + 3 else month - 9,
    dayOfYear - daysBeforeMonth month + 1⟩

example : dayNumber ⟨1970, 1, 1⟩ = 0 := by decide
example : ofDayNumber 0 = ⟨1970, 1, 1⟩ := by decide
example : ofDayNumber (dayNumber ⟨2000, 2, 29⟩) = ⟨2000, 2, 29⟩ := by decide
example : ofDayNumber (dayNumber ⟨-1, 12, 31⟩) = ⟨-1, 12, 31⟩ := by decide

end Date

end MockupStudio
