/-
Texts with places to fill.

* `fill`: a text with every occurrence of a marker replaced; occurrences are
  found from left to right and do not overlap;
* `escaped`: a text as it is written inside a page.
-/
namespace MockupStudio.Text

/-- Goes on after `skip` further characters of a marker that was found. -/
def fillFrom (marker filling : List Char) : Nat → List Char → List Char
  | _, [] => []
  | skip + 1, _ :: cs => fillFrom marker filling skip cs
  | 0, c :: cs =>
    if marker.isPrefixOf (c :: cs) then filling ++ fillFrom marker filling (marker.length - 1) cs
    else c :: fillFrom marker filling 0 cs

/-- A text with every occurrence of a marker replaced. -/
def fill (marker filling text : String) : String :=
  String.ofList (fillFrom marker.toList filling.toList 0 text.toList)

/-- How a character is written inside a page. -/
def escapedChar (c : Char) : List Char :=
  if c = '&' then "&amp;".toList
  else if c = '<' then "&lt;".toList
  else if c = '>' then "&gt;".toList
  else if c = '"' then "&quot;".toList
  else [c]

/-- A text as it is written inside a page. -/
def escaped (s : String) : String := String.ofList (s.toList.flatMap escapedChar)

end MockupStudio.Text
