/-
Reading JSON text.

The reader keeps the brackets that are open in a list, so texts of any
nesting are read; each of its steps takes at least one character.

* `readString?`: the rest of a text after its opening quote;
* `readNumeral?`: a number;
* `read?`: a whole JSON text, nothing following it.
-/
import MockupStudio.Json.Written

namespace MockupStudio.Json

/-- Whether a character may stand between the parts of a JSON text. -/
def isSpace (c : Char) : Bool := c = ' ' || c = '\n' || c = '\t' || c = '\r'

/-- The value of a hexadecimal digit. -/
def hexValue? (c : Char) : Option Nat :=
  if c.isDigit then some (c.toNat - '0'.toNat)
  else if 'a' ≤ c ∧ c ≤ 'f' then some (c.toNat - 'a'.toNat + 10)
  else if 'A' ≤ c ∧ c ≤ 'F' then some (c.toNat - 'A'.toNat + 10)
  else none

/-- The number written by four hexadecimal digits. -/
def hexUnit? (a b c d : Char) : Option Nat := do
  let a ← hexValue? a
  let b ← hexValue? b
  let c ← hexValue? c
  let d ← hexValue? d
  return ((a * 16 + b) * 16 + c) * 16 + d

/-- The character an escape letter stands for. -/
def simpleEscape? (c : Char) : Option Char :=
  match c with
  | '"' => some '"'
  | '\\' => some '\\'
  | '/' => some '/'
  | 'b' => some '\x08'
  | 'f' => some '\x0c'
  | 'n' => some '\n'
  | 'r' => some '\r'
  | 't' => some '\t'
  | _ => none

/-- The character two units stand for: a pair of halves, the higher first. -/
def pair? (high low : Nat) : Option Char :=
  if 0xd800 ≤ high ∧ high < 0xdc00 ∧ 0xdc00 ≤ low ∧ low < 0xe000 then
    some (Char.ofNat (0x10000 + (high - 0xd800) * 0x400 + (low - 0xdc00)))
  else none

/-- The character a unit stands for, unless it is half of a pair. -/
def single? (unit : Nat) : Option Char :=
  if 0xd800 ≤ unit ∧ unit < 0xe000 then none else some (Char.ofNat unit)

/-- One more character of a text; half of a pair makes it a text that stands
for no characters. -/
def pushed (out : Option String) (c : Option Char) : Option String := do
  let out ← out
  let c ← c
  return out.push c

/-- The rest of a string after its opening quote, and what follows it. -/
def readString? (out : Option String) : List Char → Option (Option String × List Char)
  | [] => none
  | '"' :: cs => some (out, cs)
  | '\\' :: 'u' :: a :: b :: c :: d :: '\\' :: 'u' :: e :: f :: g :: h :: cs =>
    match hexUnit? a b c d with
    | none => none
    | some n =>
      match (hexUnit? e f g h).bind (pair? n) with
      | some char => readString? (pushed out char) cs
      | none => readString? (pushed out (single? n)) ('\\' :: 'u' :: e :: f :: g :: h :: cs)
  | '\\' :: 'u' :: a :: b :: c :: d :: cs =>
    match hexUnit? a b c d with
    | some n => readString? (pushed out (single? n)) cs
    | none => none
  | '\\' :: c :: cs =>
    match simpleEscape? c with
    | some d => readString? (pushed out d) cs
    | none => none
  | c :: cs => if c < ' ' || c = '\\' then none else readString? (pushed out c) cs

/-- The digits of an exponent after its mark, with the sign. -/
def readExponent? (cs : List Char) : Option (Bool × List Char × List Char) :=
  let (negative, rest) := Decimal.splitSign cs
  let (digits, rest) := rest.span Char.isDigit
  if digits.isEmpty then none else some (negative, digits, rest)

/-- A number and what follows it. -/
def readNumeral? (cs : List Char) : Option (Numeral × List Char) := do
  let (negative, cs) := match cs with
    | '-' :: cs => (true, cs)
    | cs => (false, cs)
  let (whole, cs) := cs.span Char.isDigit
  if whole.isEmpty || (whole.head? = some '0' && whole.length ≠ 1) then none
  let (fraction, cs) ← match cs with
    | '.' :: cs =>
      let (digits, cs) := cs.span Char.isDigit
      if digits.isEmpty then none else some (some digits, cs)
    | cs => some (none, cs)
  match cs with
  | c :: rest =>
    if c = 'e' ∨ c = 'E' then
      let (sign, digits, rest) ← readExponent? rest
      return (⟨negative, whole, fraction, some (sign, digits)⟩, rest)
    else return (⟨negative, whole, fraction, none⟩, c :: rest)
  | [] => return (⟨negative, whole, fraction, none⟩, [])

/-- A bracket that is still open, with what it holds so far in reverse. -/
inductive Open where
  | array (items : List Written)
  | object (members : List (Option String × Written)) (key : Option String)

/-- What the reader expects next. -/
inductive Expecting where
  /-- A value; `]` too if it may close an array that was just opened. -/
  | value (mayClose : Bool)
  /-- A key; `}` too if it may close an object that was just opened. -/
  | key (members : List (Option String × Written)) (mayClose : Bool)
  /-- A comma or a closing bracket after a finished value. -/
  | more (done : Written)

/-- A scalar at the front of a text. -/
def readScalar? : List Char → Option (Written × List Char)
  | '"' :: cs => (readString? (some "") cs).map fun (s, rest) => (.text s, rest)
  | 'n' :: 'u' :: 'l' :: 'l' :: cs => some (.null, cs)
  | 't' :: 'r' :: 'u' :: 'e' :: cs => some (.bool true, cs)
  | 'f' :: 'a' :: 'l' :: 's' :: 'e' :: cs => some (.bool false, cs)
  | cs => (readNumeral? cs).map fun (n, rest) => (.number n, rest)

/-- A key with its colon at the front of a text. -/
def readKey? : List Char → Option (Option String × List Char)
  | '"' :: cs => do
    let (key, rest) ← readString? (some "") cs
    match rest.dropWhile isSpace with
    | ':' :: rest => some (key, rest)
    | _ => none
  | _ => none

/-- Reads on with at most `steps` steps. -/
def readSteps : Nat → List Open → Expecting → List Char → Option Written
  | 0, _, _, _ => none
  | steps + 1, stack, expecting, cs =>
    match expecting, cs.dropWhile isSpace with
    | .value _, '[' :: rest => readSteps steps (.array [] :: stack) (.value true) rest
    | .value _, '\x7b' :: rest => readSteps steps stack (.key [] true) rest
    | .value true, ']' :: rest =>
      match stack with
      | .array items :: stack => readSteps steps stack (.more (.array items.reverse)) rest
      | _ => none
    | .value _, cs =>
      match readScalar? cs with
      | some (w, rest) => readSteps steps stack (.more w) rest
      | none => none
    | .key members mayClose, cs =>
      match mayClose, cs with
      | true, '\x7d' :: rest =>
        readSteps steps stack (.more (.object members.reverse)) rest
      | _, cs =>
        match readKey? cs with
        | some (key, rest) =>
          readSteps steps (.object members key :: stack) (.value false) rest
        | none => none
    | .more done, cs =>
      match stack, cs with
      | [], [] => some done
      | .array items :: stack, ',' :: rest =>
        readSteps steps (.array (done :: items) :: stack) (.value false) rest
      | .array items :: stack, ']' :: rest =>
        readSteps steps stack (.more (.array (done :: items).reverse)) rest
      | .object members key :: stack, ',' :: rest =>
        readSteps steps stack (.key ((key, done) :: members) false) rest
      | .object members key :: stack, '\x7d' :: rest =>
        readSteps steps stack (.more (.object ((key, done) :: members).reverse)) rest
      | _, _ => none

/-- A JSON text, blanks around it allowed. -/
def read? (s : String) : Option Written :=
  let cs := s.toList
  readSteps (cs.length + 2) [] (.value false) cs

/-- The plain data of a JSON text. -/
def readData? (s : String) : Option Json := (read? s).bind Written.data?

end MockupStudio.Json
