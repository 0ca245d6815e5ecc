/-
Reading points in time in the notation of the Internet.

The reading is lenient: blanks may stand before the parts, `t` or a blank in
place of the `T`, and between the hours and minutes of an offset any colons
and blanks.

* `readNumber?`, `readSign?`, `readFraction?`, `readOffset?`: the parts;
* `Timestamp.read?`: a whole point in time with its offset, nothing
  following it but blanks.
-/
import MockupStudio.Decimal.Numeral
import MockupStudio.Text.Blank
import MockupStudio.Time.Timestamp

namespace MockupStudio.Timestamp

open Text

/-- A number of at least one and at most `width` digits, blanks before it. -/
def readNumber? (width : Nat) (cs : List Char) : Option (Nat × List Char) :=
  let cs := cs.dropWhile isBlank
  let digits := (cs.take width).takeWhile Char.isDigit
  if digits.isEmpty then none else some (Decimal.naturalOf digits, cs.drop digits.length)

/-- A number no larger than `most`. -/
def readUpTo? (most width : Nat) (cs : List Char) : Option (Nat × List Char) := do
  let (n, rest) ← readNumber? width cs
  if n ≤ most then some (n, rest) else none

/-- A given character, blanks before it. -/
def readMark? (mark : Char) (cs : List Char) : Option (List Char) :=
  match cs.dropWhile isBlank with
  | c :: rest => if c = mark then some rest else none
  | [] => none

/-- The farthest years there are. -/
def firstYear : Int := -262143
def lastYear : Int := 262142

/-- A year: four digits at most, or any number of them after a sign. -/
def readYear? (cs : List Char) : Option (Int × List Char) :=
  let cs := cs.dropWhile isBlank
  let found := match cs with
    | '-' :: rest =>
      let digits := rest.takeWhile Char.isDigit
      (-(Decimal.naturalOf digits : Int), digits, rest.drop digits.length)
    | '+' :: rest =>
      let digits := rest.takeWhile Char.isDigit
      ((Decimal.naturalOf digits : Int), digits, rest.drop digits.length)
    | rest =>
      let digits := (rest.take 4).takeWhile Char.isDigit
      ((Decimal.naturalOf digits : Int), digits, rest.drop digits.length)
  if found.2.1.isEmpty ∨ found.1 < firstYear ∨ lastYear < found.1 then none
  else some (found.1, found.2.2)

/-- A date. -/
def readDate? (cs : List Char) : Option (Date × List Char) := do
  let (year, cs) ← readYear? cs
  let cs ← readMark? '-' cs
  let (month, cs) ← readNumber? 2 cs
  let cs ← readMark? '-' cs
  let (day, cs) ← readNumber? 2 cs
  let date : Date := ⟨year, month, day⟩
  if date.isValid then some (date, cs) else none

/-- Billionths after a point; digits past the ninth do not count. -/
def readFraction? : List Char → Option (Nat × List Char)
  | '.' :: cs =>
    let digits := cs.takeWhile Char.isDigit
    let first := digits.take 9
    if digits.isEmpty then none
    else some (Decimal.naturalOf first * tenTo (9 - first.length), cs.drop digits.length)
  | cs => some (0, cs)

/-- A time of day, as seconds and billionths; a sixtieth second counts as a
leap second of the fifty-ninth. -/
def readClock? (cs : List Char) : Option (Nat × Nat × List Char) := do
  let (hours, cs) ← readUpTo? 23 2 cs
  let cs ← readMark? ':' cs
  let (minutes, cs) ← readUpTo? 59 2 cs
  let cs ← readMark? ':' cs
  let (seconds, cs) ← readUpTo? 60 2 cs
  let (nanos, cs) ← readFraction? cs
  let leap := seconds / 60
  return (3600 * hours + 60 * minutes + (seconds - leap), nanos + leap * billion, cs)

/-- Two digits. -/
def readPair? : List Char → Option (Nat × List Char)
  | a :: b :: rest =>
    if a.isDigit && b.isDigit then some (Decimal.naturalOf [a, b], rest) else none
  | _ => none

/-- Hours and minutes of an offset, in seconds; less than a day. -/
def readOffsetAmount? (cs : List Char) : Option (Int × List Char) := do
  let (hours, cs) ← readPair? cs
  let (minutes, cs) ← readPair? (cs.dropWhile fun c => c = ':' || isBlank c)
  let seconds := 3600 * hours + 60 * minutes
  if minutes ≤ 59 ∧ seconds < 86400 then some ((seconds : Int), cs) else none

/-- The offset of a zone from that of `Z`. -/
def readOffset? (cs : List Char) : Option (Int × List Char) :=
  match cs.dropWhile isBlank with
  | u :: t :: c :: rest =>
    if u.toLower = 'u' ∧ t.toLower = 't' ∧ c.toLower = 'c' then some (0, rest)
    else ofSign (u :: t :: c :: rest)
  | cs => ofSign cs
where
  /-- An offset that is not spelt out. -/
  ofSign : List Char → Option (Int × List Char)
    | 'Z' :: rest => some (0, rest)
    | 'z' :: rest => some (0, rest)
    | '+' :: rest => readOffsetAmount? rest
    | '-' :: rest => negated rest
    | '\u2212' :: rest => negated rest
    | _ => none
  /-- An offset to the west. -/
  negated (rest : List Char) : Option (Int × List Char) :=
    (readOffsetAmount? rest).map fun (n, rest) => (-n, rest)

/-- A point in time. -/
def read? (s : String) : Option Timestamp := do
  let (date, cs) ← readDate? s.toList
  let cs ← match cs with
    | c :: rest => if c = 'T' ∨ c = 't' ∨ c = ' ' then some rest else none
    | [] => none
  let (seconds, nanos, cs) ← readClock? cs
  let (offset, cs) ← readOffset? cs
  let t : Timestamp := ⟨secondsPerDay * date.dayNumber + seconds - offset, nanos⟩
  if cs.all isBlank ∧ firstYear ≤ t.date.year ∧ t.date.year ≤ lastYear then some t else none

end MockupStudio.Timestamp
