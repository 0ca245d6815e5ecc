/-
Writing plain data as JSON text.

* `numeral`: the notation of floats, positional from `10 ^ -5` up to below
  `10 ^ 16`, always with a point or an exponent;
* `writeString`: a quoted text with its escapes;
* `Json.compact`: on one line without spaces;
* `Json.pretty`: one item or member a line, two spaces a level.
-/
import MockupStudio.Decimal.Layout
import MockupStudio.Json.Basic

namespace MockupStudio.Json

/-- Floats in JSON text. -/
def numeral : Decimal.Layout := ⟨some (-5, 15), true, true, .even⟩

/-- A digit to base sixteen, lower case. -/
def hexDigit (n : Nat) : Char := (Nat.digitChar n)

/-- How one character is written inside a JSON string. -/
def writeChar (c : Char) : String :=
  if c = '"' then "\\\""
  else if c = '\\' then "\\\\"
  else if c = '\x08' then "\\b"
  else if c = '\x0c' then "\\f"
  else if c = '\n' then "\\n"
  else if c = '\r' then "\\r"
  else if c = '\t' then "\\t"
  else if c < ' ' then
    "\\u00" ++ String.ofList [hexDigit (c.toNat / 16), hexDigit (c.toNat % 16)]
  else c.toString

/-- A JSON string. -/
def writeString (s : String) : String :=
  s.foldl (fun out c => out ++ writeChar c) "\"" ++ "\""

/-- A float; JSON has no other word for the infinite ones than null. -/
def writeFloat (x : Float) : String := if x.isFinite then numeral.write x else "null"

/-- The opening and the closing brace. -/
def openBrace : String := "\x7b"
def closeBrace : String := "\x7d"

mutual

/-- Appends data to a text, on one line. -/
def appendCompact (out : String) : Json → String
  | null => out ++ "null"
  | bool b => out ++ (if b then "true" else "false")
  | int n => out ++ Decimal.integer n
  | float x => out ++ writeFloat x
  | text s => out ++ writeString s
  | array items => appendItems (out ++ "[") true items ++ "]"
  | object members => appendMembers (out ++ openBrace) true members ++ closeBrace

/-- Appends the items of an array, separated by commas. -/
def appendItems (out : String) (first : Bool) : List Json → String
  | [] => out
  | item :: items =>
    appendItems (appendCompact (if first then out else out ++ ",") item) false items

/-- Appends the members of an object, separated by commas. -/
def appendMembers (out : String) (first : Bool) : List (String × Json) → String
  | [] => out
  | (key, item) :: members =>
    let out := (if first then out else out ++ ",") ++ writeString key ++ ":"
    appendMembers (appendCompact out item) false members

end

/-- Data as JSON text on one line. -/
def compact (data : Json) : String := appendCompact "" data

/-- A new line indented by `level` levels. -/
def newLine (level : Nat) : String := "\n" ++ String.ofList (List.replicate (2 * level) ' ')

mutual

/-- Appends data to a text, over several lines, from an indentation level. -/
def appendPretty (out : String) (level : Nat) : Json → String
  | null => out ++ "null"
  | bool b => out ++ (if b then "true" else "false")
  | int n => out ++ Decimal.integer n
  | float x => out ++ writeFloat x
  | text s => out ++ writeString s
  | array [] => out ++ "[]"
  | array (item :: items) =>
    appendPrettyItems (appendPretty (out ++ "[" ++ newLine (level + 1)) (level + 1) item)
      (level + 1) items ++ newLine level ++ "]"
  | object [] => out ++ openBrace ++ closeBrace
  | object ((key, item) :: members) =>
    let out := out ++ openBrace ++ newLine (level + 1) ++ writeString key ++ ": "
    appendPrettyMembers (appendPretty out (level + 1) item) (level + 1) members
      ++ newLine level ++ closeBrace

/-- Appends the later items of an array, each on a line. -/
def appendPrettyItems (out : String) (level : Nat) : List Json → String
  | [] => out
  | item :: items =>
    appendPrettyItems (appendPretty (out ++ "," ++ newLine level) level item) level items

/-- Appends the later members of an object, each on a line. -/
def appendPrettyMembers (out : String) (level : Nat) : List (String × Json) → String
  | [] => out
  | (key, item) :: members =>
    let out := out ++ "," ++ newLine level ++ writeString key ++ ": "
    appendPrettyMembers (appendPretty out level item) level members

end

/-- Data as JSON text over several lines. -/
def pretty (data : Json) : String := appendPretty "" 0 data

end MockupStudio.Json
