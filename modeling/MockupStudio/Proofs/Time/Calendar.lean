/-
Dates and the numbers of their days.

* `Date.daysInto`: the days before a year of a cycle of four hundred years, the
  years beginning in March; `Date.daysInto_yearOfCycle` says that the year of a
  day is the one that the day falls into;
* `Date.monthOfDay_spec`: the same for the months of a year;
* `Date.isValid_ofDayNumber`, `Date.dayNumber_ofDayNumber`: every day number is
  the number of a date that exists.
-/
import MockupStudio.Time.Calendar
import Mathlib.Order.Monotone.Basic
import Mathlib.Tactic.Lemma

namespace MockupStudio

/-! ### Leap years -/

lemma isLeapYear_add_cycle (cycle n : Int) : isLeapYear (400 * cycle + n) = isLeapYear n := by
  have h4 : (400 * cycle + n) % 4 = n % 4 := by omega
  have h100 : (400 * cycle + n) % 100 = n % 100 := by omega
  have h400 : (400 * cycle + n) % 400 = n % 400 := by omega
  rw [isLeapYear, isLeapYear, h4, h100, h400]

/-- The length of a month depends on the year by its leap day only. -/
lemma daysInMonth_congr {year year' : Int} {month : Nat}
    (h : month = 2 → isLeapYear year = isLeapYear year') :
    daysInMonth year month = daysInMonth year' month := by
  rw [daysInMonth, daysInMonth]
  split
  · next hmonth => rw [h hmonth]
  · rfl

namespace Date

/-! ### The years of a cycle -/

/-- The days of a cycle before a year of it. -/
def daysInto (year : Nat) : Nat := 365 * year + year / 4 - year / 100 + year / 400

lemma daysBeforeYear_eq (cycle : Int) (year : Nat) :
    daysBeforeYear (400 * cycle + year) = 146097 * cycle + daysInto year := by
  rw [daysBeforeYear, daysInto]
  omega

/-- A year has 366 days if its February, which comes last, has 29. -/
lemma daysInto_succ {year : Nat} (h : year < 400) : daysInto (year + 1)
    = daysInto year + if isLeapYear ((year : Int) + 1) then 366 else 365 := by
  have hall : ∀ year < 400, daysInto (year + 1)
      = daysInto year + if isLeapYear ((year : Int) + 1) then 366 else 365 := by
    decide +kernel
  exact hall year h

lemma monotone_yearOfCycle : Monotone yearOfCycle := by
  refine monotone_nat_of_le_succ fun day => Nat.div_le_div_right ?_
  -- where a day more is a day less by the first correction, the others make up for it
  omega

/-- The first and the last day of a year of a cycle. -/
lemma yearOfCycle_ends {year : Nat} (h : year < 400) :
    yearOfCycle (daysInto year) = year ∧ yearOfCycle (daysInto (year + 1) - 1) = year := by
  have hall : ∀ year < 400,
      yearOfCycle (daysInto year) = year ∧ yearOfCycle (daysInto (year + 1) - 1) = year := by
    decide +kernel
  exact hall year h

lemma yearOfCycle_lt {day : Nat} (h : day < 146097) : yearOfCycle day < 400 := by
  have hlast : yearOfCycle 146096 = 399 := by decide
  have hle : yearOfCycle day ≤ yearOfCycle 146096 := monotone_yearOfCycle (by omega)
  omega

/-- The year of a day is the one that the day falls into. -/
lemma daysInto_yearOfCycle {day : Nat} (h : day < 146097) :
    daysInto (yearOfCycle day) ≤ day ∧ day < daysInto (yearOfCycle day + 1) := by
  have hyear := yearOfCycle_lt h
  constructor
  · by_contra hlt
    obtain ⟨year, hyear'⟩ : ∃ year, yearOfCycle day = year + 1 := by
      refine Nat.exists_eq_succ_of_ne_zero fun hzero => hlt ?_
      rw [hzero]
      exact Nat.zero_le day
    rw [hyear'] at hlt
    have hle : yearOfCycle day ≤ yearOfCycle (daysInto (year + 1) - 1) :=
      monotone_yearOfCycle (by omega)
    have hends := (yearOfCycle_ends (by omega : year < 400)).2
    omega
  · by_contra hle
    by_cases hlast : yearOfCycle day + 1 < 400
    · have hle' : yearOfCycle (daysInto (yearOfCycle day + 1)) ≤ yearOfCycle day :=
        monotone_yearOfCycle (by omega)
      have hends := (yearOfCycle_ends hlast).1
      omega
    · have heq : yearOfCycle day + 1 = 400 := by omega
      have hwhole : daysInto 400 = 146097 := by decide
      rw [heq, hwhole] at hle
      exact hle h

/-! ### The months of a year -/

/-- The months since March of a day of a year. -/
def monthOfDay (day : Nat) : Nat := (5 * day + 2) / 153

/-- A month since March as a month of the calendar. -/
def calendarMonth (month : Nat) : Nat := if month < 10 then month + 3 else month - 9

/-- The month of a day is the one that the day falls into. -/
structure InMonth (day month : Nat) : Prop where
  lt : month < 12
  begun : daysBeforeMonth month ≤ day
  of_common : day < 365 → day - daysBeforeMonth month < daysInMonth 1 (calendarMonth month)
  of_leap : day - daysBeforeMonth month < daysInMonth 0 (calendarMonth month)

lemma monthOfDay_spec {day : Nat} (h : day < 366) : InMonth day (monthOfDay day) := by
  have hall : ∀ day < 366, monthOfDay day < 12 ∧ daysBeforeMonth (monthOfDay day) ≤ day
      ∧ (day < 365 → day - daysBeforeMonth (monthOfDay day)
          < daysInMonth 1 (calendarMonth (monthOfDay day)))
      ∧ day - daysBeforeMonth (monthOfDay day)
          < daysInMonth 0 (calendarMonth (monthOfDay day)) := by
    decide +kernel
  obtain ⟨hlt, hbegun, hcommon, hleap⟩ := hall day h
  exact ⟨hlt, hbegun, hcommon, hleap⟩

/-! ### Day numbers -/

/-- The date of a day number in its parts: a cycle, a year of it, a month of that year
and a day of that month. -/
lemma ofDayNumber_parts (number : Int) : ∃ (cycle : Int) (year day : Nat),
    year < 400 ∧ day < (if isLeapYear ((year : Int) + 1) then 366 else 365)
      ∧ number + epochDay = 146097 * cycle + daysInto year + day
      ∧ ofDayNumber number
        = ⟨if monthOfDay day < 10 then 400 * cycle + year else 400 * cycle + year + 1,
            calendarMonth (monthOfDay day), day - daysBeforeMonth (monthOfDay day) + 1⟩ := by
  obtain ⟨dayOfCycle, hday⟩ : ∃ n : Nat, ((number + epochDay) % 146097).toNat = n := ⟨_, rfl⟩
  have hlt : dayOfCycle < 146097 := by omega
  have hyear := yearOfCycle_lt hlt
  have hinto := daysInto_yearOfCycle hlt
  have hbefore : 365 * yearOfCycle dayOfCycle + yearOfCycle dayOfCycle / 4
      - yearOfCycle dayOfCycle / 100 = daysInto (yearOfCycle dayOfCycle) := by
    rw [daysInto]
    omega
  refine ⟨(number + epochDay) / 146097, yearOfCycle dayOfCycle,
    dayOfCycle - daysInto (yearOfCycle dayOfCycle), hyear, ?_, ?_, ?_⟩
  · rw [daysInto_succ hyear] at hinto
    omega
  · omega
  · rw [ofDayNumber]
    simp only [hday, hbefore]
    rfl

/-- Every day number is that of a date that exists. -/
theorem isValid_ofDayNumber (number : Int) : (ofDayNumber number).isValid := by
  obtain ⟨cycle, year, day, -, hday, -, hdate⟩ := ofDayNumber_parts number
  have hmonth := monthOfDay_spec (by split at hday <;> omega : day < 366)
  have hten (hfebruary : calendarMonth (monthOfDay day) = 2) : ¬ monthOfDay day < 10 := by
    rw [calendarMonth] at hfebruary
    split at hfebruary <;> omega
  have hlength : day - daysBeforeMonth (monthOfDay day) < daysInMonth
      (if monthOfDay day < 10 then 400 * cycle + year else 400 * cycle + year + 1)
      (calendarMonth (monthOfDay day)) := by
    by_cases hleap : isLeapYear ((year : Int) + 1)
    · refine Nat.lt_of_lt_of_eq hmonth.of_leap (daysInMonth_congr fun hfebruary => ?_)
      rw [if_neg (hten hfebruary), Int.add_assoc, isLeapYear_add_cycle, hleap]
      rfl
    · rw [if_neg hleap] at hday
      refine Nat.lt_of_lt_of_eq (hmonth.of_common hday) (daysInMonth_congr fun hfebruary => ?_)
      rw [if_neg (hten hfebruary), Int.add_assoc, isLeapYear_add_cycle,
        (Bool.not_eq_true _).mp hleap]
      rfl
  have hnumber : 1 ≤ calendarMonth (monthOfDay day) ∧ calendarMonth (monthOfDay day) ≤ 12 := by
    have := hmonth.lt
    rw [calendarMonth]
    split <;> omega
  rw [hdate, isValid]
  simp only [Bool.and_eq_true, decide_eq_true_eq]
  exact ⟨⟨⟨hnumber.1, hnumber.2⟩, Nat.le_add_left 1 _⟩, hlength⟩

/-- A day number is the number of its date. -/
theorem dayNumber_ofDayNumber (number : Int) : (ofDayNumber number).dayNumber = number := by
  obtain ⟨cycle, year, day, -, hday, hnumber, hdate⟩ := ofDayNumber_parts number
  have hmonth := monthOfDay_spec (by split at hday <;> omega : day < 366)
  have hback : (calendarMonth (monthOfDay day) + 9) % 12 = monthOfDay day := by
    have := hmonth.lt
    rw [calendarMonth]
    split <;> omega
  have hyear : (if calendarMonth (monthOfDay day) ≤ 2
      then (if monthOfDay day < 10 then 400 * cycle + (year : Int) else 400 * cycle + year + 1) - 1
      else if monthOfDay day < 10 then 400 * cycle + (year : Int) else 400 * cycle + year + 1)
        = 400 * cycle + year := by
    have := hmonth.lt
    rw [calendarMonth]
    split <;> split <;> omega
  rw [hdate, dayNumber]
  simp only [hback, hyear, daysBeforeYear_eq]
  have := hmonth.begun
  omega

end Date

end MockupStudio
