/-
Points in time are read as they are written.

* `Timestamp.Writes`: digits of a number; `Timestamp.writes_padded`: a padded number
  is written by its digits, `width` of them where they are enough;
* `Timestamp.readDate_written`, `Timestamp.readClock_written`: date and time of day
  are read back, whatever follows them;
* `Timestamp.InRange`: the points in time that there are;
* `Timestamp.read_written`: they are read as they are written.
-/
import MockupStudio.Proofs.Time.Calendar
import MockupStudio.Time.Notation
import Mathlib

namespace MockupStudio.Timestamp

open Text

/-! ### Numbers -/

/-- Digits of a number. -/
structure Writes (digits : List Char) (n : Nat) : Prop where
  ne_nil : digits ≠ []
  isDigit : ∀ c ∈ digits, c.isDigit
  value : Decimal.naturalOf digits = n

/-- What does not go on with a digit. -/
def EndsNumber (rest : List Char) : Prop := ∀ c ∈ rest.head?, c.isDigit = false

section Numbers

variable {digits rest : List Char} {width n most : Nat}

lemma not_isBlank_of_isDigit {c : Char} (h : c.isDigit) : isBlank c = false := by
  simp only [Char.isDigit, Bool.and_eq_true, decide_eq_true_eq, UInt32.le_iff_toNat_le,
    ge_iff_le] at h
  have hge : 48 ≤ c.toNat := h.1
  have hle : c.toNat ≤ 57 := h.2
  simp only [isBlank, Bool.or_eq_false_iff, Bool.and_eq_false_iff, decide_eq_false_iff_not]
  omega

lemma Writes.dropWhile_isBlank (h : Writes digits n) (rest : List Char) :
    (digits ++ rest).dropWhile isBlank = digits ++ rest := by
  obtain ⟨d, ds, rfl⟩ := List.exists_cons_of_ne_nil h.ne_nil
  have hd := not_isBlank_of_isDigit (h.isDigit d List.mem_cons_self)
  rw [List.cons_append, List.dropWhile_cons_of_neg (by simp [hd])]

lemma Writes.takeWhile_isDigit (h : Writes digits n) (hrest : EndsNumber rest) :
    (digits ++ rest).takeWhile Char.isDigit = digits := by
  have hnone : rest.takeWhile Char.isDigit = [] := by
    cases rest with
    | nil => rfl
    | cons c rest => exact List.takeWhile_cons_of_neg (by simp [hrest c rfl])
  rw [List.takeWhile_append_of_pos h.isDigit, hnone, List.append_nil]

/-- A number is written by as many digits as asked for where they are enough, and else
by its own. -/
lemma writes_padded (width n : Nat) : Writes (padded width n).toList n := by
  rw [padded, String.toList_ofList]
  refine ⟨?_, fun c hc => ?_, ?_⟩
  · exact List.append_ne_nil_of_right_ne_nil _ Nat.toDigits_ne_nil
  · rcases List.mem_append.mp hc with hc | hc
    · rw [List.eq_of_mem_replicate hc]
      decide
    · exact Nat.isDigit_of_mem_toDigits (by decide) (by decide) hc
  · calc Decimal.naturalOf (List.replicate _ '0' ++ Decimal.naturalDigits n)
        = Nat.ofDigitChars 10 (Nat.toDigits 10 n)
            (Nat.ofDigitChars 10 (List.replicate _ '0') 0) := Nat.ofDigitChars_append 0
      _ = Nat.ofDigitChars 10 (Nat.toDigits 10 n) 0 := by
          rw [Nat.ofDigitChars_replicate_zero, Nat.mul_zero]
      _ = n := Nat.ofDigitChars_ten_toDigits

lemma length_padded (hwidth : 0 < width) (h : n < 10 ^ width) :
    (padded width n).toList.length = width := by
  have hle : (Nat.toDigits 10 n).length ≤ width := Nat.toDigits_length 10 n width hwidth h
  rw [padded, String.toList_ofList, List.length_append, List.length_replicate]
  exact Nat.sub_add_cancel hle

lemma readNumber_padded (hwidth : 0 < width) (h : n < 10 ^ width) (rest : List Char) :
    readNumber? width ((padded width n).toList ++ rest) = some (n, rest) := by
  have hwrites := writes_padded width n
  have hlength := length_padded hwidth h
  have htake : ((padded width n).toList ++ rest).take width = (padded width n).toList :=
    List.take_left' hlength
  have hall : (padded width n).toList.takeWhile Char.isDigit = (padded width n).toList :=
    List.takeWhile_eq_self_iff.mpr hwrites.isDigit
  have hdrop : ((padded width n).toList ++ rest).drop (padded width n).toList.length = rest :=
    List.drop_left
  have hsome : (padded width n).toList.isEmpty = false := by simpa using hwrites.ne_nil
  rw [readNumber?]
  simp only [hwrites.dropWhile_isBlank, htake, hall, hdrop, hsome, hwrites.value]
  rfl

lemma readUpTo_padded (hwidth : 0 < width) (h : n < 10 ^ width) (hmost : n ≤ most)
    (rest : List Char) :
    readUpTo? most width ((padded width n).toList ++ rest) = some (n, rest) := by
  rw [readUpTo?, readNumber_padded hwidth h]
  exact if_pos hmost

lemma readMark_cons {mark : Char} (h : isBlank mark = false) (rest : List Char) :
    readMark? mark (mark :: rest) = some rest := by
  rw [readMark?, List.dropWhile_cons_of_neg (by simp [h])]
  exact if_pos rfl

end Numbers

/-! ### Dates -/

section Dates

variable {year : Int} {n : Nat} {digits rest : List Char} {d : Date}

lemma Writes.ne_sign (h : Writes digits n) {sign : Char} (hsign : sign.isDigit = false)
    (rest rest' : List Char) : digits ++ rest ≠ sign :: rest' := by
  obtain ⟨c, cs, rfl⟩ := List.exists_cons_of_ne_nil h.ne_nil
  intro heq
  have hc : c.isDigit := h.isDigit c List.mem_cons_self
  rw [(List.cons.inj heq).1, hsign] at hc
  cases hc

/-- Without a sign four digits are read. -/
lemma readYear_padded (h : n < 10 ^ 4) (rest : List Char) :
    readYear? ((padded 4 n).toList ++ rest) = some ((n : Int), rest) := by
  have hwrites := writes_padded 4 n
  have htake : ((padded 4 n).toList ++ rest).take 4 = (padded 4 n).toList :=
    List.take_left' (length_padded (by decide) h)
  have hall : (padded 4 n).toList.takeWhile Char.isDigit = (padded 4 n).toList :=
    List.takeWhile_eq_self_iff.mpr hwrites.isDigit
  have hdrop : ((padded 4 n).toList ++ rest).drop (padded 4 n).toList.length = rest :=
    List.drop_left
  have hrange : ¬ ((n : Int) < firstYear ∨ lastYear < n) := by
    rw [firstYear, lastYear]
    omega
  rw [readYear?, hwrites.dropWhile_isBlank]
  split
  · next hsign => exact absurd hsign (hwrites.ne_sign rfl _ _)
  · next hsign => exact absurd hsign (hwrites.ne_sign rfl _ _)
  · simp only [htake, hall, hdrop, hwrites.value]
    exact if_neg (by simpa [hwrites.ne_nil] using hrange)

/-- Behind a sign all digits are read. -/
lemma readYear_signed (h : Writes digits n) (hrest : EndsNumber rest) :
    (firstYear ≤ -(n : Int) → readYear? ('-' :: (digits ++ rest)) = some (-(n : Int), rest))
      ∧ ((n : Int) ≤ lastYear → readYear? ('+' :: (digits ++ rest)) = some ((n : Int), rest)) := by
  have hall := h.takeWhile_isDigit hrest
  have hdrop : (digits ++ rest).drop digits.length = rest := List.drop_left
  constructor
  · intro hfirst
    have hrange : ¬ (-(n : Int) < firstYear ∨ lastYear < -(n : Int)) := by
      rw [lastYear]
      omega
    rw [readYear?, List.dropWhile_cons_of_neg (by decide)]
    simp only [hall, hdrop, h.value]
    exact if_neg (by simpa [h.ne_nil] using hrange)
  · intro hlast
    have hrange : ¬ ((n : Int) < firstYear ∨ lastYear < (n : Int)) := by
      rw [firstYear]
      omega
    rw [readYear?, List.dropWhile_cons_of_neg (by decide)]
    simp only [hall, hdrop, h.value]
    exact if_neg (by simpa [h.ne_nil] using hrange)

/-- A year is read back in front of what is no digit. -/
lemma readYear_written (hfirst : firstYear ≤ year) (hlast : year ≤ lastYear)
    (hrest : EndsNumber rest) :
    readYear? ((writtenYear year).toList ++ rest) = some (year, rest) := by
  rw [writtenYear]
  split
  · next h =>
    obtain ⟨n, rfl⟩ := Int.eq_ofNat_of_zero_le h.1
    exact readYear_padded (by omega) rest
  · next h =>
    have hsigned := readYear_signed (writes_padded 4 year.natAbs) hrest
    rw [String.toList_append]
    split
    · next hnegative =>
      have hyear : -(year.natAbs : Int) = year := by omega
      rw [hyear] at hsigned
      exact hsigned.1 hfirst
    · next hpositive =>
      have hyear : (year.natAbs : Int) = year := by omega
      rw [hyear] at hsigned
      exact hsigned.2 hlast

/-- A date that exists is read back, whatever follows it. -/
lemma readDate_written (hvalid : d.isValid) (hfirst : firstYear ≤ d.year)
    (hlast : d.year ≤ lastYear) (rest : List Char) :
    readDate? ((writtenDate d).toList ++ rest) = some (d, rest) := by
  have hmonth : d.month < 10 ^ 2 := by
    simp only [Date.isValid, Bool.and_eq_true, decide_eq_true_eq] at hvalid
    omega
  have hday : d.day < 10 ^ 2 := by
    have hlength : daysInMonth d.year d.month ≤ 31 := by
      rw [daysInMonth]
      split
      · split <;> decide
      · split <;> decide
    simp only [Date.isValid, Bool.and_eq_true, decide_eq_true_eq] at hvalid
    omega
  have hcs : (writtenDate d).toList ++ rest = (writtenYear d.year).toList
      ++ '-' :: ((padded 2 d.month).toList ++ '-' :: ((padded 2 d.day).toList ++ rest)) := by
    simp [writtenDate]
  have hends (cs : List Char) : EndsNumber ('-' :: cs) := by
    rintro c ⟨⟩
    rfl
  have hmark : isBlank '-' = false := by decide
  rw [hcs, readDate?, readYear_written hfirst hlast (hends _)]
  simp [readMark_cons hmark, readNumber_padded _ hmonth, readNumber_padded _ hday, hvalid]

end Dates

/-! ### Times of day -/

section Clock

variable {n : Nat} {rest : List Char}

/-- Decimals are read as so many billionths. -/
lemma readFraction_padded (places unit : Nat) (hunit : 0 < places ∧ places ≤ 9
      ∧ tenTo (9 - places) = unit) (hn : n < 10 ^ places) (hrest : EndsNumber rest) :
    readFraction? ('.' :: ((padded places n).toList ++ rest)) = some (n * unit, rest) := by
  obtain ⟨hplaces, hnine, hunit⟩ := hunit
  have hwrites := writes_padded places n
  have hlength := length_padded hplaces hn
  have hall := hwrites.takeWhile_isDigit hrest
  have htake : (padded places n).toList.take 9 = (padded places n).toList :=
    List.take_of_length_le (hlength.trans_le hnine)
  have hdrop : ((padded places n).toList ++ rest).drop places = rest :=
    List.drop_left' hlength
  rw [readFraction?]
  simp only [hall, htake, hdrop, hwrites.value, hlength, hunit]
  exact if_neg (mt List.isEmpty_iff.mp hwrites.ne_nil)

/-- The decimals of the seconds are read back in front of the zone. -/
lemma readFraction_written (t : Timestamp) (rest : List Char) :
    readFraction? (t.writtenFraction.toList ++ 'Z' :: rest)
      = some (t.nanos % billion, 'Z' :: rest) := by
  obtain ⟨n, hn⟩ : ∃ n, t.nanos % billion = n := ⟨_, rfl⟩
  have hlt : n < billion := hn ▸ Nat.mod_lt _ (by decide)
  rw [billion] at hlt
  have hends : EndsNumber ('Z' :: rest) := by
    rintro c ⟨⟩
    rfl
  rw [writtenFraction, hn]
  split
  · next h => rw [h]; rfl
  · split
    · next h =>
      have hback : n / 1000000 * 1000000 = n := Nat.div_mul_cancel (Nat.dvd_of_mod_eq_zero h)
      have hread := readFraction_padded 3 1000000 (by decide)
        (by omega : n / 1000000 < 10 ^ 3) hends
      rw [hback] at hread
      simpa using hread
    · split
      · next h =>
        have hback : n / 1000 * 1000 = n := Nat.div_mul_cancel (Nat.dvd_of_mod_eq_zero h)
        have hread := readFraction_padded 6 1000 (by decide)
          (by omega : n / 1000 < 10 ^ 6) hends
        rw [hback] at hread
        simpa using hread
      · have hread := readFraction_padded 9 1 (by decide) (by omega : n < 10 ^ 9) hends
        rw [Nat.mul_one] at hread
        simpa using hread

/-- Points in time that there are: the year is one of the calendar, and only the last
second of a minute has a leap second. -/
structure InRange (t : Timestamp) : Prop where
  first : firstYear ≤ t.date.year
  last : t.date.year ≤ lastYear
  nanos : t.nanos < 2 * billion
  leap : billion ≤ t.nanos → t.seconds % 60 = 59

instance (t : Timestamp) : Decidable t.InRange :=
  decidable_of_iff (firstYear ≤ t.date.year ∧ t.date.year ≤ lastYear ∧ t.nanos < 2 * billion
      ∧ (billion ≤ t.nanos → t.seconds % 60 = 59))
    ⟨fun ⟨h, h', hn, hl⟩ => ⟨h, h', hn, hl⟩, fun h => ⟨h.first, h.last, h.nanos, h.leap⟩⟩

/-- A time of day is read back in front of the zone. -/
lemma readClock_written {t : Timestamp} (ht : t.InRange) (rest : List Char) :
    readClock? (t.writtenClock.toList ++ (t.writtenFraction.toList ++ 'Z' :: rest))
      = some ((t.seconds % secondsPerDay).toNat, t.nanos, 'Z' :: rest) := by
  obtain ⟨s, hs⟩ : ∃ s, (t.seconds % secondsPerDay).toNat = s := ⟨_, rfl⟩
  obtain ⟨leap, hleap⟩ : ∃ n, t.nanos / billion = n := ⟨_, rfl⟩
  have hnanos := ht.nanos
  have hlast := ht.leap
  rw [billion] at hnanos hlast hleap
  rw [secondsPerDay] at hs
  have hseconds : (s % 60 + leap) / 60 = leap ∧ s % 60 + leap ≤ 60 := by omega
  have hhours : s / 3600 ≤ 23 := by omega
  have hcs : t.writtenClock.toList ++ (t.writtenFraction.toList ++ 'Z' :: rest)
      = (padded 2 (s / 3600)).toList ++ ':' :: ((padded 2 (s / 60 % 60)).toList
        ++ ':' :: ((padded 2 (s % 60 + leap)).toList
          ++ (t.writtenFraction.toList ++ 'Z' :: rest))) := by
    simp [writtenClock, clock, secondsPerDay, billion, hs, hleap]
  have hmark : isBlank ':' = false := by decide
  have htwo : 0 < 2 := by decide
  rw [hcs, readClock?, readUpTo_padded htwo (by omega) hhours]
  simp only [Option.bind_eq_bind, Option.bind_some, readMark_cons hmark,
    readUpTo_padded htwo (by omega : s / 60 % 60 < 10 ^ 2) (by omega : s / 60 % 60 ≤ 59),
    readUpTo_padded htwo (by omega : s % 60 + leap < 10 ^ 2) hseconds.2, readFraction_written,
    hseconds.1]
  have hsecond : 3600 * (s / 3600) + 60 * (s / 60 % 60) + (s % 60 + leap - leap) = s := by omega
  have hnano : t.nanos % billion + leap * billion = t.nanos := by
    rw [billion]
    omega
  rw [hsecond, hnano, secondsPerDay, hs]
  rfl

end Clock

/-- Points in time are read as they are written. -/
theorem read_written {t : Timestamp} (ht : t.InRange) : read? t.written = some t := by
  have hvalid : t.date.isValid := Date.isValid_ofDayNumber _
  have hdate := readDate_written hvalid ht.first ht.last
    ('T' :: (t.writtenClock.toList ++ (t.writtenFraction.toList ++ ['Z'])))
  have hcs : t.written.toList = (writtenDate t.date).toList
      ++ 'T' :: (t.writtenClock.toList ++ (t.writtenFraction.toList ++ ['Z'])) := by
    simp [written]
  have hoffset : readOffset? ['Z'] = some (0, []) := rfl
  have hback : (⟨secondsPerDay * t.date.dayNumber + (t.seconds % secondsPerDay).toNat - 0,
      t.nanos⟩ : Timestamp) = t := by
    have hseconds : secondsPerDay * (t.seconds / secondsPerDay)
        + (t.seconds % secondsPerDay).toNat - 0 = t.seconds := by
      rw [secondsPerDay]
      omega
    rw [date, Date.dayNumber_ofDayNumber, hseconds]
  rw [read?, hcs, hdate]
  simp only [Option.bind_eq_bind, Option.bind_some, true_or, if_true, readClock_written ht [],
    hoffset, hback]
  exact if_pos ⟨rfl, ht.first, ht.last⟩

end MockupStudio.Timestamp
