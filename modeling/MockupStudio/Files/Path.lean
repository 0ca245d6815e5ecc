/-
Paths as they are written.

* `Path.names`: the names of a path between its slashes;
* `Path.join`: a path below another one;
* `Path.fileName?`: the last name of a path.
-/
namespace MockupStudio.Path

/-- The pieces of a text between slashes. -/
def pieces : List Char → List (List Char)
  | [] => [[]]
  | c :: cs =>
    if c = '/' then [] :: pieces cs
    else
      match pieces cs with
      | first :: rest => (c :: first) :: rest
      | [] => [[c]]

/-- The names of a path in their order; empty ones and single points lead
nowhere. -/
def names (path : String) : List String :=
  ((pieces path.toList).map String.ofList).filter fun name => name ≠ "" && name ≠ "."

/-- Whether a path begins at the root. -/
def isAbsolute (path : String) : Bool := path.toList.head? = some '/'

/-- Whether a path can only be that of a directory. -/
def endsInSlash (path : String) : Bool :=
  match (pieces path.toList).getLast? with
  | some last => last.isEmpty || last = ['.']
  | none => false

/-- A path that starts from another one; from an empty path, and if it begins
at the root, it stays as it is. -/
def join (base path : String) : String :=
  if base = "" || isAbsolute path then path
  else if base.toList.getLast? = some '/' then base ++ path
  else base ++ "/" ++ path

/-- The last name of a path, unless it leads upwards or nowhere. -/
def fileName? (path : String) : Option String :=
  (names path).getLast?.filter (· ≠ "..")

example : names "./a//b/." = ["a", "b"] := by decide
example : fileName? "a/b/.." = none := by decide
example : join "a/" "b" = "a/b" := by decide

end MockupStudio.Path
