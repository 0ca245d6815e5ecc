/-
Texts in TOML.

* `isPlain`: the characters that stand for themselves in comments and texts;
* `newline?`: the two ways to end a line;
* `readText?`: a text in any of the four notations; line ends inside count as
  one character.
-/
import MockupStudio.Json.Reader

namespace MockupStudio.Toml

/-- Whether a character may stand in a comment or a text. -/
def isPlain (c : Char) : Bool := c = '\t' || (' ' ≤ c && c ≠ '\x7f')

/-- Whether a character is a blank inside a line. -/
def isBlank (c : Char) : Bool := c = ' ' || c = '\t'

/-- What follows the end of a line. -/
def newline? : List Char → Option (List Char)
  | '\n' :: rest => some rest
  | '\r' :: '\n' :: rest => some rest
  | _ => none

/-- A character given by its number in hexadecimal digits. -/
def charOfDigits? (digits : List Char) : Option Char := do
  let n ← digits.foldlM (fun n d => (Json.hexValue? d).map (16 * n + ·)) 0
  if n < 0xd800 ∨ (0xe000 ≤ n ∧ n < 0x110000) then some (Char.ofNat n) else none

/-- The character an escape stands for, after its backslash. -/
def readEscape? : List Char → Option (Char × List Char)
  | 'u' :: rest =>
    if rest.length < 4 then none
    else (charOfDigits? (rest.take 4)).map fun c => (c, rest.drop 4)
  | 'U' :: rest =>
    if rest.length < 8 then none
    else (charOfDigits? (rest.take 8)).map fun c => (c, rest.drop 8)
  | c :: rest => if c = '/' then none else (Json.simpleEscape? c).map fun d => (d, rest)
  | [] => none

/-- A text on one line, after its opening quote. -/
def readLine? (quote : Char) : Nat → List Char → List Char → Option (String × List Char)
  | 0, _, _ => none
  | steps + 1, done, cs =>
    match cs with
    | [] => none
    | c :: rest =>
      if c = quote then some (String.ofList done.reverse, rest)
      else if c = '\\' ∧ quote = '"' then
        match readEscape? rest with
        | some (d, rest) => readLine? quote steps (d :: done) rest
        | none => none
      else if isPlain c then readLine? quote steps (c :: done) rest
      else none

/-- Whether a backslash is followed by nothing but blanks on its line. -/
def endsLine (cs : List Char) : Bool := (newline? (cs.dropWhile isBlank)).isSome

/-- Without leading blanks and line ends. -/
def skipSpace : List Char → List Char
  | '\r' :: '\n' :: rest => skipSpace rest
  | c :: rest => if isBlank c || c = '\n' then skipSpace rest else c :: rest
  | [] => []

/-- The number of quotes a text begins with. -/
def quotes (quote : Char) (cs : List Char) : Nat := (cs.takeWhile (· = quote)).length

/-- A text over several lines, after its opening quotes; up to two quotes may
stand directly before the closing ones. -/
def readLines? (quote : Char) : Nat → List Char → List Char → Option (String × List Char)
  | 0, _, _ => none
  | steps + 1, done, cs =>
    match cs with
    | [] => none
    | c :: rest =>
      if c = quote then
        let n := min (quotes quote cs) 5
        if n < 3 then readLines? quote steps (c :: done) rest
        else some (String.ofList (List.replicate (n - 3) quote ++ done).reverse, cs.drop n)
      else if c = '\\' ∧ quote = '"' then
        if endsLine rest then readLines? quote steps done (skipSpace rest)
        else
          match readEscape? rest with
          | some (d, rest) => readLines? quote steps (d :: done) rest
          | none => none
      else
        match newline? cs with
        | some rest => readLines? quote steps ('\n' :: done) rest
        | none => if isPlain c then readLines? quote steps (c :: done) rest else none

/-- A text over several lines; a line end directly after the opening quotes
does not count. -/
def readBlock? (quote : Char) (cs : List Char) : Option (String × List Char) :=
  let cs := (newline? cs).getD cs
  readLines? quote (cs.length + 1) [] cs

/-- A text in any notation, from its opening quote. -/
def readText? : List Char → Option (String × List Char)
  | '"' :: '"' :: '"' :: rest => readBlock? '"' rest
  | '\'' :: '\'' :: '\'' :: rest => readBlock? '\'' rest
  | '"' :: rest => readLine? '"' (rest.length + 1) [] rest
  | '\'' :: rest => readLine? '\'' (rest.length + 1) [] rest
  | _ => none

end MockupStudio.Toml
