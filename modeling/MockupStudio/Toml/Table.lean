/-
Tables while a TOML text is read.

* `Item`: a finished value, a table with how it came about, or a list of
  tables, the last one first;
* `insertDotted`: a value under a dotted key: tables made by dotted keys can
  be added to in this way, those with a heading cannot, and no key is given
  twice;
* `within`: a change inside a table found by its path;
* `openTable`, `openTables`: what a heading does;
* `Item.wire`: the data as it is read.
-/
import MockupStudio.Wire.Basic

namespace MockupStudio.Toml

/-- How a table came about. -/
inductive Origin where
  /-- A heading further down named it on its way. -/
  | implied
  /-- It has a heading of its own. -/
  | headed
  /-- A dotted key named it on its way. -/
  | dotted
  deriving Repr, DecidableEq

/-- What stands under a key. -/
inductive Item where
  | leaf (value : Wire)
  | table (origin : Origin) (members : List (String × Item))
  /-- The tables of a list, the last one first. -/
  | tables (members : List (List (String × Item)))
  deriving Inhabited

/-- The keys of a table with what stands under them. -/
abbrev Table := List (String × Item)

namespace Table

/-- Puts something under a key, in place of what was there. -/
def put (key : String) (item : Item) : Table → Table
  | [] => [(key, item)]
  | (k, i) :: rest => if k = key then (key, item) :: rest else (k, i) :: put key item rest

/-- Puts a value under a dotted key; `ready` if the table may be given keys
of this kind. -/
def insertDotted (ready : Bool) (path : List String) (key : String) (item : Item)
    (table : Table) : Option Table :=
  match path with
  | [] => if ready && (table.lookup key).isNone then some (table.put key item) else none
  | k :: path =>
    match table.lookup k with
    | none => (insertDotted true path key item []).map fun t => table.put k (.table .dotted t)
    | some (.table .headed _) => none
    | some (.table origin t) =>
      (insertDotted (origin = .dotted) path key item t).map fun t =>
        table.put k (.table origin t)
    | some (.tables (t :: earlier)) =>
      (insertDotted false path key item t).map fun t => table.put k (.tables (t :: earlier))
    | some _ => none

/-- Changes the table found by a path; of a list the last table counts, and
missing tables are made. -/
def within (path : List String) (change : Table → Option Table) (table : Table) :
    Option Table :=
  match path with
  | [] => change table
  | k :: path =>
    match table.lookup k with
    | none => (within path change []).map fun t => table.put k (.table .implied t)
    | some (.table origin t) =>
      (within path change t).map fun t => table.put k (.table origin t)
    | some (.tables (t :: earlier)) =>
      (within path change t).map fun t => table.put k (.tables (t :: earlier))
    | some _ => none

/-- The heading of a table: it may have been named on the way before. -/
def openTable (path : List String) (key : String) (table : Table) : Option Table :=
  table.within path fun t =>
    match t.lookup key with
    | none => some (t.put key (.table .headed []))
    | some (.table .implied members) => some (t.put key (.table .headed members))
    | some _ => none

/-- The heading of another table of a list. -/
def openTables (path : List String) (key : String) (table : Table) : Option Table :=
  table.within path fun t =>
    match t.lookup key with
    | none => some (t.put key (.tables [[]]))
    | some (.tables earlier) => some (t.put key (.tables ([] :: earlier)))
    | some _ => none

end Table

mutual

/-- The data under a key. -/
def Item.wire : Item → Wire
  | .leaf value => value
  | .table _ members => .record (memberWires members)
  | .tables members => .list (tableWires members).reverse true

/-- The members of a table. -/
def memberWires : List (String × Item) → List (String × Wire)
  | [] => []
  | (key, item) :: rest => (key, item.wire) :: memberWires rest

/-- The tables of a list. -/
def tableWires : List (List (String × Item)) → List Wire
  | [] => []
  | members :: rest => .record (memberWires members) :: tableWires rest

end

end MockupStudio.Toml
