/-
Points in time.

* `Timestamp`: seconds since 1970 and the billionths after them; a second
  with a leap second after it lasts two billion billionths;
* `Timestamp.Before`: the order in time, with its laws;
* `Timestamp.microsecondLater`: the next microsecond, which lies later;
* `Timestamp.written`: date and time of day in the notation of the Internet,
  in the zone `Z`, with as many triples of decimals as needed.
-/
import MockupStudio.Decimal.Layout
import MockupStudio.Time.Calendar

namespace MockupStudio

/-- A point in time. -/
structure Timestamp where
  /-- Seconds since the beginning of 1970. -/
  seconds : Int
  /-- Billionths of a second after that; from a billion on they belong to a
  leap second. -/
  nanos : Nat
  deriving Repr, DecidableEq, Inhabited

namespace Timestamp

/-- A billion, the billionths of a second. -/
def billion : Nat := 1000000000

/-- Whether one point in time comes before another. -/
def Before (a b : Timestamp) : Prop :=
  a.seconds < b.seconds ∨ a.seconds = b.seconds ∧ a.nanos < b.nanos

instance (a b : Timestamp) : Decidable (Before a b) :=
  inferInstanceAs (Decidable (_ ∨ _))

theorem Before.irrefl (a : Timestamp) : ¬Before a a := by simp [Before]

theorem Before.trans {a b c : Timestamp} (hab : Before a b) (hbc : Before b c) :
    Before a c := by
  unfold Before at *
  omega

/-- The point in time one microsecond later. -/
def microsecondLater (t : Timestamp) : Timestamp :=
  let length := if t.nanos < billion then billion else 2 * billion
  let nanos := t.nanos + 1000
  if nanos < length then ⟨t.seconds, nanos⟩ else ⟨t.seconds + 1, nanos - length⟩

/-- A microsecond later is later. -/
theorem before_microsecondLater (t : Timestamp) : Before t t.microsecondLater := by
  unfold Before microsecondLater
  dsimp only
  split <;> split <;> dsimp only <;> omega

/-- Seconds of a day. -/
def secondsPerDay : Int := 86400

/-- The date of a point in time. -/
def date (t : Timestamp) : Date := Date.ofDayNumber (t.seconds / secondsPerDay)

/-- Hours, minutes and seconds of the time of day; a leap second is the
sixtieth. -/
def clock (t : Timestamp) : Nat × Nat × Nat :=
  let s := (t.seconds % secondsPerDay).toNat
  (s / 3600, s / 60 % 60, s % 60 + t.nanos / billion)

/-- A number with at least `width` digits. -/
def padded (width n : Nat) : String :=
  let digits := Decimal.naturalDigits n
  String.ofList (List.replicate (width - digits.length) '0' ++ digits)

/-- A year; those outside of four digits have a sign. -/
def writtenYear (year : Int) : String :=
  if 0 ≤ year ∧ year ≤ 9999 then padded 4 year.toNat
  else (if year < 0 then "-" else "+") ++ padded 4 year.natAbs

/-- A date. -/
def writtenDate (d : Date) : String :=
  writtenYear d.year ++ "-" ++ padded 2 d.month ++ "-" ++ padded 2 d.day

/-- A time of day. -/
def writtenClock (t : Timestamp) : String :=
  let (h, m, s) := t.clock
  padded 2 h ++ ":" ++ padded 2 m ++ ":" ++ padded 2 s

/-- The decimals of the seconds, as thousandths, millionths or billionths. -/
def writtenFraction (t : Timestamp) : String :=
  let n := t.nanos % billion
  if n = 0 then ""
  else if n % 1000000 = 0 then "." ++ padded 3 (n / 1000000)
  else if n % 1000 = 0 then "." ++ padded 6 (n / 1000)
  else "." ++ padded 9 n

/-- A point in time in the notation of the Internet. -/
def written (t : Timestamp) : String :=
  writtenDate t.date ++ "T" ++ t.writtenClock ++ t.writtenFraction ++ "Z"

/-- A point in time for a table, to the second. -/
def shown (t : Timestamp) : String := writtenDate t.date ++ " " ++ t.writtenClock

end Timestamp

end MockupStudio
