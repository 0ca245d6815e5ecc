/-
Documents: mockups as they are kept.

* `Document`: the sources with a name, an id and the time of the last change;
* `Document.touch`: notes a change; `touch_later` says that the noted time
  always grows, whatever the clock reads;
* `Id.IsValid`: ids that can be part of a path;
* `Summary.newestFirst`: the order of a listing, newest first and of equal
  times by id.
-/
import MockupStudio.Document.Stage
import MockupStudio.Time.Timestamp

namespace MockupStudio

/-- A mockup as it is kept. -/
structure Document where
  id : String
  name : String
  modifiedAt : Timestamp
  sources : Sources
  deriving Repr, DecidableEq, Inhabited

/-- What a listing shows of a document. -/
structure Summary where
  id : String
  name : String
  modifiedAt : Timestamp
  deriving Repr, DecidableEq, Inhabited

/-- What is sent to save a document. -/
structure SaveRequest where
  name : String
  sources : Sources
  deriving Repr, DecidableEq

/-- What is sent to save one source of a document. -/
structure FieldUpdate where
  field : Stage
  text : String
  deriving Repr, DecidableEq

namespace Document

/-- What a listing shows of a document. -/
def summary (d : Document) : Summary := ⟨d.id, d.name, d.modifiedAt⟩

/-- The time of a change: the clock, or a microsecond after the time before
where the clock is not past that. -/
def changeTime (now before : Timestamp) : Timestamp :=
  if before.Before now then now else before.microsecondLater

/-- Notes a change. -/
def touch (now : Timestamp) (d : Document) : Document :=
  { d with modifiedAt := changeTime now d.modifiedAt }

/-- Replaces name and sources. -/
def overwrite (now : Timestamp) (name : String) (sources : Sources) (d : Document) :
    Document :=
  { d with name, sources }.touch now

/-- Replaces one source. -/
def updateField (now : Timestamp) (field : Stage) (text : String) (d : Document) : Document :=
  { d with sources := d.sources.set field text }.touch now

/-- The time of a change lies after the time before, whatever the clock
reads. -/
theorem before_changeTime (now before : Timestamp) :
    before.Before (changeTime now before) := by
  unfold changeTime
  split
  · assumption
  · exact before.before_microsecondLater

/-- A noted change makes a document newer. -/
theorem touch_later (now : Timestamp) (d : Document) :
    d.modifiedAt.Before (d.touch now).modifiedAt :=
  before_changeTime now d.modifiedAt

end Document

namespace Id

/-- The longest id, in bytes. -/
def maxLength : Nat := 128

/-- Whether a character may occur in an id. -/
def allows (c : Char) : Bool := c.isAlphanum || c = '-' || c = '_' || c = '.'

/-- Whether a text is an id: it can stand in a path without leading elsewhere. -/
def isValid (id : String) : Bool :=
  !id.isEmpty && id.utf8ByteSize ≤ maxLength && id.toList.head? ≠ some '.'
    && id.toList.all allows

end Id

namespace Summary

/-- Whether a summary stands no later than another in a listing. -/
def le (a b : Summary) : Bool :=
  b.modifiedAt.Before a.modifiedAt || (a.modifiedAt = b.modifiedAt && a.id ≤ b.id)

/-- Newest first, of equal times by id. -/
def newestFirst (summaries : List Summary) : List Summary := summaries.mergeSort le

end Summary

end MockupStudio
