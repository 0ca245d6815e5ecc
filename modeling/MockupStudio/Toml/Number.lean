/-
Numbers and dates in TOML.

* `readInteger?`, `readFloat?`, `readMoment?`: the three kinds; digits may be
  separated by single underscores;
* `readNumber?`: whichever of them stands at the front of a text. A date is a
  record with nothing that a reader asks for.
-/
import MockupStudio.Decimal.Numeral
import MockupStudio.Json.Reader
import MockupStudio.Time.Calendar
import MockupStudio.Wire.Basic

namespace MockupStudio.Toml

/-- Digits with single underscores between them, and what follows. -/
def readDigits (isDigit : Char → Bool) : List Char → List Char × List Char
  | '_' :: c :: rest =>
    if isDigit c then
      let (digits, rest) := readDigits isDigit rest
      (c :: digits, rest)
    else ([], '_' :: c :: rest)
  | c :: rest =>
    if isDigit c then
      let (digits, rest) := readDigits isDigit rest
      (c :: digits, rest)
    else ([], c :: rest)
  | [] => ([], [])

/-- Digits that begin with one. -/
def readSome? (isDigit : Char → Bool) (cs : List Char) : Option (List Char × List Char) :=
  match cs with
  | c :: _ => if isDigit c then some (readDigits isDigit cs) else none
  | [] => none

/-- Decimal digits without a needless zero in front. -/
def readDecimal? : List Char → Option (List Char × List Char)
  | '0' :: rest => some (['0'], rest)
  | cs => readSome? Char.isDigit cs

/-- Whether a character is a digit to some base. -/
def isDigitTo (base : Nat) (c : Char) : Bool := (Json.hexValue? c).any (· < base)

/-- The number written by digits to some base. -/
def numberTo (base : Nat) (digits : List Char) : Nat :=
  digits.foldl (fun n c => base * n + (Json.hexValue? c).getD 0) 0

/-- An integer of 64 bits. -/
def whole? (n : Int) : Option Wire := if Decimal.fitsInt64 n then some (.whole n) else none

/-- An integer: decimal with a sign, or hexadecimal, octal or binary. -/
def readInteger? (cs : List Char) : Option (Wire × List Char) :=
  match cs with
  | '0' :: 'x' :: rest => inBase 16 rest
  | '0' :: 'o' :: rest => inBase 8 rest
  | '0' :: 'b' :: rest => inBase 2 rest
  | _ => do
    let (negative, cs) := Decimal.splitSign cs
    let (digits, rest) ← readDecimal? cs
    let n : Int := Decimal.naturalOf digits
    let w ← whole? (if negative then -n else n)
    return (w, rest)
where
  /-- Digits to some base. -/
  inBase (base : Nat) (cs : List Char) : Option (Wire × List Char) := do
    let (digits, rest) ← readSome? (isDigitTo base) cs
    let w ← whole? (numberTo base digits)
    return (w, rest)

/-- The end of a float: a fraction, an exponent or both, with their
characters. -/
def readTail? (cs : List Char) : Option (List Char × List Char) := do
  let (fraction, cs) ← match cs with
    | '.' :: rest => (readSome? Char.isDigit rest).map fun (d, rest) => ('.' :: d, rest)
    | cs => some ([], cs)
  match cs with
  | c :: rest =>
    if c = 'e' ∨ c = 'E' then
      let (negative, rest) := Decimal.splitSign rest
      let (digits, rest) ← readSome? Char.isDigit rest
      return (fraction ++ ['e'] ++ (if negative then ['-'] else []) ++ digits, rest)
    else if fraction.isEmpty then none
    else return (fraction, cs)
  | [] => if fraction.isEmpty then none else return (fraction, [])

/-- What is read at the front of a text. -/
inductive Found where
  /-- Something else stands there. -/
  | nothing
  /-- It begins like one and is none. -/
  | broken
  | number (value : Wire) (rest : List Char)

/-- A float; one that is too large is refused. -/
def readFloat? (cs : List Char) : Found :=
  let (negative, digits) := Decimal.splitSign cs
  match digits with
  | 'i' :: 'n' :: 'f' :: rest => .number .fraction rest
  | 'n' :: 'a' :: 'n' :: rest => .number .fraction rest
  | _ =>
    match readDecimal? digits with
    | none => .nothing
    | some (whole, rest) =>
      match readTail? rest with
      | none => .nothing
      | some (tail, rest) =>
        match Decimal.readFloat? (whole ++ tail) with
        | some x => if x.isFinite || negative then .number .fraction rest else .broken
        | none => .broken

/-- Two digits as a number no larger than `most`. -/
def readPair? (most : Nat) : List Char → Option (Nat × List Char)
  | a :: b :: rest =>
    let n := Decimal.naturalOf [a, b]
    if a.isDigit && b.isDigit && n ≤ most then some (n, rest) else none
  | _ => none

/-- A given character. -/
def readMark? (mark : Char) : List Char → Option (List Char)
  | c :: rest => if c = mark then some rest else none
  | [] => none

/-- The time of day after its hours and their colon. -/
def readMinutes? (cs : List Char) : Option (List Char) := do
  let (_, cs) ← readPair? 59 cs
  let cs ← readMark? ':' cs
  let (_, cs) ← readPair? 60 cs
  match cs with
  | '.' :: rest =>
    match rest.dropWhile Char.isDigit with
    | after => if after.length < rest.length then some after else none
  | cs => some cs

/-- The hours of a time of day with their colon. -/
def readHours? (cs : List Char) : Option (List Char) := do
  let (_, cs) ← readPair? 23 cs
  readMark? ':' cs

/-- An offset after its sign. -/
def readOffset? (cs : List Char) : Option (List Char) := do
  let (_, cs) ← readPair? 23 cs
  let cs ← readMark? ':' cs
  let (_, cs) ← readPair? 59 cs
  return cs

/-- What may follow a time of day that belongs to a date. -/
def readZone? : List Char → Option (List Char)
  | 'Z' :: rest => some rest
  | 'z' :: rest => some rest
  | '+' :: rest => readOffset? rest
  | '-' :: rest => readOffset? rest
  | cs => some cs

/-- The year of a date with its dash. -/
def readYear? (cs : List Char) : Option (Nat × List Char) := do
  let digits := (cs.take 4).takeWhile Char.isDigit
  if digits.length < 4 then none
  else
    let rest ← readMark? '-' (cs.drop 4)
    return (Decimal.naturalOf digits, rest)

/-- A date after its year. -/
def readDay? (year : Nat) (cs : List Char) : Option (List Char) := do
  let (month, cs) ← readPair? 12 cs
  let cs ← readMark? '-' cs
  let (day, cs) ← readPair? 31 cs
  let date : Date := ⟨year, month, day⟩
  if date.isValid then some cs else none

/-- A record with nothing that is asked for. -/
def moment : Wire := .record []

/-- A time of day, given what stands after its hours. -/
def ofMinutes (cs : List Char) : Found :=
  match readMinutes? cs with
  | some rest => .number moment rest
  | none => .broken

/-- A date, a time of day, or both. -/
def readMoment? (cs : List Char) : Found :=
  match readYear? cs with
  | some (year, rest) =>
    match readDay? year rest with
    | none => .broken
    | some rest =>
      match rest with
      | c :: time =>
        if c = 'T' ∨ c = 't' ∨ c = ' ' then
          match readHours? time with
          | some minutes =>
            match (readMinutes? minutes).bind readZone? with
            | some rest => .number moment rest
            | none => .broken
          | none => .number moment rest
        else .number moment rest
      | [] => .number moment []
  | none =>
    match readHours? cs with
    | some minutes => ofMinutes minutes
    | none => .nothing

/-- A number or a date at the front of a text. -/
def readNumber? (cs : List Char) : Option (Wire × List Char) :=
  match readMoment? cs with
  | .number w rest => some (w, rest)
  | .broken => none
  | .nothing =>
    match readFloat? cs with
    | .number w rest => some (w, rest)
    | .broken => none
    | .nothing => readInteger? cs

end MockupStudio.Toml
