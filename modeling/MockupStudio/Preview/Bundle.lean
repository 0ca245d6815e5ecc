/-
A mockup as files to take away.

* `Bundle.page`, `Bundle.readme`: the templates with their places filled;
* `Bundle.files`: the five files in their order.
-/
import MockupStudio.Document.Stage
import MockupStudio.Json.Writer
import MockupStudio.Text.Marked

namespace MockupStudio.Bundle

/-- Where the name of the mockup goes. -/
def titleMarker : String := "\x7btitle\x7d"

/-- Where the markup goes. -/
def markupMarker : String := "\x7bmarkup\x7d"

/-- The page, with places for name and markup. -/
def pageTemplate : String :=
  "<!DOCTYPE html>\n<html>\n<head>\n<meta charset=\"utf-8\">\n<title>" ++ titleMarker
    ++ "</title>\n<link rel=\"stylesheet\" href=\"style.css\">\n</head>\n<body>\n"
    ++ markupMarker ++ "\n</body>\n</html>\n"

/-- The description, with a place for the name. -/
def readmeTemplate : String :=
  titleMarker ++ "\n\nExported mockup.\n\n"
    ++ "  index.html  page with the markup\n"
    ++ "  style.css   stylesheet\n"
    ++ "  data.fix    fixture script that generates the sample data\n"
    ++ "  data.json   sample data resolved at export time\n"

/-- The page of a mockup; first the name is put in, then the markup. -/
def page (name markup : String) : String :=
  Text.fill markupMarker markup (Text.fill titleMarker (Text.escaped name) pageTemplate)

/-- The description of a mockup. -/
def readme (name : String) : String := Text.fill titleMarker name readmeTemplate

/-- The files of a mockup, by their names. -/
def files (name : String) (sources : Sources) (data : Json) : List (String × String) :=
  [("index.html", page name sources.markup), (Stage.fileName .style, sources.style),
    (Stage.fileName .script, sources.script), ("data.json", data.pretty),
    ("README.txt", readme name)]

end MockupStudio.Bundle
