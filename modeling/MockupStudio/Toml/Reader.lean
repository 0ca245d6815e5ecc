/-
Reading TOML.

* `readKey?`: a key, bare, quoted or dotted;
* `readValue?`: a value; lists and tables inside each other are limited in
  depth;
* `readLines`: the lines of a text: headings and values;
* `read?`: a whole text as a record.
-/
import MockupStudio.Toml.Number
import MockupStudio.Toml.Table
import MockupStudio.Toml.Text

namespace MockupStudio.Toml

/-- How deeply lists and tables may stand inside each other, and how many
parts a key may have. -/
def maxDepth : Nat := 79

/-- Without leading blanks. -/
def skipBlanks (cs : List Char) : List Char := cs.dropWhile isBlank

/-- Whether a character may stand in a key without quotes. -/
def inBareKey (c : Char) : Bool := c.isAlphanum || c = '-' || c = '_'

/-- One part of a key. -/
def readPart? (cs : List Char) : Option (String × List Char) :=
  match cs with
  | '"' :: rest => readLine? '"' (rest.length + 1) [] rest
  | '\'' :: rest => readLine? '\'' (rest.length + 1) [] rest
  | cs =>
    let part := cs.takeWhile inBareKey
    if part.isEmpty then none else some (String.ofList part, cs.drop part.length)

/-- The parts of a key, separated by points. -/
def readParts? : Nat → List String → List Char → Option (List String × List Char)
  | 0, _, _ => none
  | steps + 1, done, cs => do
    let (part, rest) ← readPart? (skipBlanks cs)
    match skipBlanks rest with
    | '.' :: rest => readParts? steps (part :: done) rest
    | rest => return ((part :: done).reverse, rest)

/-- A key: the path to it, its last part, and what follows the blanks after
it. -/
def readKey? (cs : List Char) : Option (List String × String × List Char) := do
  let (parts, rest) ← readParts? maxDepth [] cs
  let last ← parts.getLast?
  return (parts.dropLast, last, rest)

/-- Without a leading comment; nothing if it holds a character that may not
stand in one. -/
def skipComment? : List Char → Option (List Char)
  | '#' :: rest =>
    let rest := rest.dropWhile isPlain
    if rest.isEmpty || (newline? rest).isSome then some rest else none
  | cs => some cs

/-- Without leading blanks, line ends and comments. -/
def skipFiller? : Nat → List Char → Option (List Char)
  | 0, _ => none
  | steps + 1, cs =>
    match skipSpace cs with
    | '#' :: rest => (skipComment? ('#' :: rest)).bind (skipFiller? steps)
    | rest => some rest

/-- The items of a list up to its closing bracket. -/
def readItems? (item : List Char → Option (Wire × List Char)) :
    Nat → List Wire → List Char → Option (Wire × List Char)
  | 0, _, _ => none
  | steps + 1, done, cs => do
    match ← skipFiller? (steps + 1) cs with
    | ']' :: rest => return (.list done.reverse true, rest)
    | cs =>
      let (value, rest) ← item cs
      match ← skipFiller? (steps + 1) rest with
      | ',' :: rest => readItems? item steps (value :: done) rest
      | ']' :: rest => return (.list (value :: done).reverse true, rest)
      | _ => none

/-- The members of a table on one line, up to its closing brace. -/
def readMembers? (item : List Char → Option (Wire × List Char)) :
    Nat → Table → List Char → Option (Wire × List Char)
  | 0, _, _ => none
  | steps + 1, table, cs => do
    let (path, key, rest) ← readKey? cs
    let rest ← readMark? '=' rest
    let (value, rest) ← item (skipBlanks rest)
    let table ← table.insertDotted true path key (.leaf value)
    match skipBlanks rest with
    | ',' :: rest => readMembers? item steps table rest
    | '\x7d' :: rest => return (.record (memberWires table), rest)
    | _ => none

/-- A value at the front of a text, with at most `depth` lists and tables
inside each other. -/
def readValue? : Nat → List Char → Option (Wire × List Char)
  | depth, cs =>
    match depth, cs with
    | _, '"' :: _ => (readText? cs).map fun (s, rest) => (.text s, rest)
    | _, '\'' :: _ => (readText? cs).map fun (s, rest) => (.text s, rest)
    | _, 't' :: 'r' :: 'u' :: 'e' :: rest => some (.switch true, rest)
    | _, 'f' :: 'a' :: 'l' :: 's' :: 'e' :: rest => some (.switch false, rest)
    | depth + 1, '[' :: rest => readItems? (readValue? depth) (rest.length + 1) [] rest
    | depth + 1, '\x7b' :: rest =>
      match skipBlanks rest with
      | '\x7d' :: rest => some (.record [], rest)
      | rest => readMembers? (readValue? depth) (rest.length + 1) [] rest
    | _, cs => readNumber? cs

/-- What follows the end of a line, a comment before it allowed. -/
def endLine? (cs : List Char) : Option (List Char) := do
  match ← skipComment? (skipBlanks cs) with
  | [] => return []
  | rest => newline? rest

/-- A heading after its first bracket: the path of the table it opens. -/
def readHeading? (table : Table) (cs : List Char) :
    Option (List String × Table × List Char) := do
  match cs with
  | '[' :: rest =>
    let (path, key, rest) ← readKey? rest
    let rest ← readMark? ']' rest
    let rest ← readMark? ']' rest
    return (path ++ [key], ← table.openTables path key, rest)
  | cs =>
    let (path, key, rest) ← readKey? cs
    let rest ← readMark? ']' rest
    return (path ++ [key], ← table.openTable path key, rest)

/-- The lines of a text, the values of which belong to the table at `here`. -/
def readLines : Nat → List String → Table → List Char → Option Table
  | 0, _, _, _ => none
  | steps + 1, here, table, cs => do
    match ← skipFiller? (cs.length + 1) cs with
    | [] => return table
    | '[' :: rest =>
      let (here, table, rest) ← readHeading? table rest
      let rest ← endLine? rest
      readLines steps here table rest
    | cs =>
      let (path, key, rest) ← readKey? cs
      let rest ← readMark? '=' rest
      let (value, rest) ← readValue? maxDepth (skipBlanks rest)
      let table ← table.within here fun t => t.insertDotted true path key (.leaf value)
      let rest ← endLine? rest
      readLines steps here table rest

/-- A text as a record. -/
def read? (s : String) : Option Wire :=
  let cs := s.toList
  let cs := if cs.head? = some '\ufeff' then cs.drop 1 else cs
  (readLines (cs.length + 1) [] [] cs).map fun table => .record (memberWires table)

end MockupStudio.Toml
