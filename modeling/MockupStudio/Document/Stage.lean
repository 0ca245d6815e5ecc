/-
The three parts of a mockup.

* `Stage`: markup, style and script, with their names and file names;
* `PerStage`: one value for each of them; `get_set` says what setting one
  does.
-/
namespace MockupStudio

/-- A part of a mockup. -/
inductive Stage where
  | markup
  | style
  | script
  deriving Repr, DecidableEq, Inhabited

namespace Stage

/-- All parts in their order. -/
def all : List Stage := [markup, style, script]

/-- The name of a part. -/
def name : Stage → String
  | markup => "markup"
  | style => "style"
  | script => "script"

/-- The name of the file that holds a part. -/
def fileName : Stage → String
  | markup => "markup.html"
  | style => "style.css"
  | script => "data.fix"

/-- The part of a given name. -/
def ofName? (name : String) : Option Stage := all.find? (·.name = name)

/-- The part held by a file of a given name. -/
def ofFileName? (name : String) : Option Stage := all.find? (·.fileName = name)

theorem mem_all (s : Stage) : s ∈ all := by cases s <;> simp [all]

theorem ofName?_name (s : Stage) : ofName? s.name = some s := by cases s <;> decide

end Stage

/-- A value for each part. -/
structure PerStage (α : Type u) where
  markup : α
  style : α
  script : α
  deriving Repr, DecidableEq, Inhabited

namespace PerStage

/-- The value of a part. -/
def get (p : PerStage α) : Stage → α
  | .markup => p.markup
  | .style => p.style
  | .script => p.script

/-- Sets the value of a part. -/
def set (p : PerStage α) (s : Stage) (a : α) : PerStage α :=
  match s with
  | .markup => { p with markup := a }
  | .style => { p with style := a }
  | .script => { p with script := a }

/-- Changes the value of a part. -/
def modify (p : PerStage α) (s : Stage) (f : α → α) : PerStage α := p.set s (f (p.get s))

/-- The same value for every part. -/
def replicate (a : α) : PerStage α := ⟨a, a, a⟩

/-- Changes the value of every part. -/
def map (f : α → β) (p : PerStage α) : PerStage β := ⟨f p.markup, f p.style, f p.script⟩

/-- The values in the order of the parts. -/
def toList (p : PerStage α) : List α := [p.markup, p.style, p.script]

/-- Setting a part changes that part and no other. -/
@[simp] theorem get_set (p : PerStage α) (s t : Stage) (a : α) :
    (p.set s a).get t = if s = t then a else p.get t := by
  cases s <;> cases t <;> simp [get, set]

@[simp] theorem get_modify (p : PerStage α) (s t : Stage) (f : α → α) :
    (p.modify s f).get t = if s = t then f (p.get t) else p.get t := by
  unfold modify
  rw [get_set]
  split <;> simp_all

@[simp] theorem get_map (f : α → β) (p : PerStage α) (s : Stage) :
    (p.map f).get s = f (p.get s) := by cases s <;> rfl

@[simp] theorem get_replicate (a : α) (s : Stage) : (replicate a).get s = a := by
  cases s <;> rfl

/-- Values that agree on every part are equal. -/
theorem ext_get {p q : PerStage α} (h : ∀ s, p.get s = q.get s) : p = q := by
  obtain ⟨m, y, c⟩ := p
  obtain ⟨m', y', c'⟩ := q
  have hm := h .markup
  have hy := h .style
  have hc := h .script
  simp_all [get]

end PerStage

/-- The source texts of a mockup. -/
abbrev Sources := PerStage String

/-- Sources without any text. -/
def Sources.empty : Sources := PerStage.replicate ""

end MockupStudio
