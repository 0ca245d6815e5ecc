/-
Documents, their summaries and the requests that change them are read as they are
written.

* `Sources.tree`, `Document.tree` and so on: what such a record is in JSON;
  `Document.spelt_tree` and so on: it is written so in every notation;
* `Document.ofWire_tree` and so on: it is read from that, where its time is in range;
* `Document.readJson_compact`, `Document.readJson_pretty` and so on: the texts.
-/
import MockupStudio.Document.Encoding
import MockupStudio.Proofs.Json.Writing
import MockupStudio.Proofs.Time.Notation
import MockupStudio.Wire.OfJson

namespace MockupStudio

open Json (Written Spelling)

variable {spelt : Json → Written → Prop}

/-! ### Lists -/

namespace Wire

lemma ofItems_eq (done : List Wire) (items : List Written) :
    ofItems done items = done.reverse ++ items.map ofWritten := by
  induction items generalizing done with
  | nil => simp [ofItems]
  | cons item items ih => rw [ofItems, ih, List.reverse_cons, List.append_assoc, List.map_cons,
      List.singleton_append]

lemma ofWritten_array (items : List Written) :
    ofWritten (.array items) = .list (items.map ofWritten) false := by
  rw [ofWritten, ofItems_eq, List.reverse_nil, List.nil_append]

/-- Where every item is read as itself, so is the list. -/
lemma mapM_eq_some {α : Type} {read : α → Option α} {items : List α}
    (h : ∀ a ∈ items, read a = some a) : items.mapM read = some items := by
  induction items with
  | nil => rfl
  | cons a items ih =>
    rw [List.forall_mem_cons] at h
    rw [List.mapM_cons, h.1, ih h.2]
    rfl

end Wire

/-! ### Sources -/

/-- Sources in JSON. -/
def Sources.tree (s : Sources) : Written :=
  .object [(some "markup", .text (some s.markup)), (some "style", .text (some s.style)),
    (some "script", .text (some s.script))]

lemma Sources.spelt_tree (h : Spelling spelt) (s : Sources) : spelt (Sources.toJson s) s.tree :=
  h.object (.cons ⟨rfl, h.text _⟩ (.cons ⟨rfl, h.text _⟩ (.cons ⟨rfl, h.text _⟩ .nil)))

lemma Sources.ofWire_tree (s : Sources) : Sources.ofWire? (Wire.ofWritten s.tree) = some s :=
  rfl

/-! ### Documents and summaries -/

lemma Timestamp.ofWire_written {t : Timestamp} (h : t.InRange) :
    Timestamp.ofWire? (.text t.written) = some t := by
  rw [Timestamp.ofWire?, Wire.text?, Option.bind_some, Timestamp.read_written h]

/-- A document in JSON. -/
def Document.tree (d : Document) : Written :=
  .object [(some "id", .text (some d.id)), (some "name", .text (some d.name)),
    (some "modifiedAt", .text (some d.modifiedAt.written)), (some "sources", d.sources.tree)]

/-- A summary in JSON. -/
def Summary.tree (s : Summary) : Written :=
  .object [(some "id", .text (some s.id)), (some "name", .text (some s.name)),
    (some "modifiedAt", .text (some s.modifiedAt.written))]

lemma Document.spelt_tree (h : Spelling spelt) (d : Document) : spelt d.toJson d.tree :=
  h.object (.cons ⟨rfl, h.text _⟩ (.cons ⟨rfl, h.text _⟩ (.cons ⟨rfl, h.text _⟩
    (.cons ⟨rfl, Sources.spelt_tree h d.sources⟩ .nil))))

lemma Summary.spelt_tree (h : Spelling spelt) (s : Summary) : spelt s.toJson s.tree :=
  h.object (.cons ⟨rfl, h.text _⟩ (.cons ⟨rfl, h.text _⟩ (.cons ⟨rfl, h.text _⟩ .nil)))

lemma Document.ofWire_tree {d : Document} (h : d.modifiedAt.InRange) :
    Document.ofWire? (Wire.ofWritten d.tree) = some d := by
  have hmembers : (Wire.ofWritten d.tree).members? ["id", "name", "modifiedAt", "sources"]
      = some [some (.text d.id), some (.text d.name), some (.text d.modifiedAt.written),
        some (Wire.ofWritten d.sources.tree)] := rfl
  rw [Document.ofWire?, hmembers]
  simp [Wire.required, Wire.text?, Timestamp.ofWire_written h, Sources.ofWire_tree]

lemma Summary.ofWire_tree {s : Summary} (h : s.modifiedAt.InRange) :
    Summary.ofWire? (Wire.ofWritten s.tree) = some s := by
  have hmembers : (Wire.ofWritten s.tree).members? ["id", "name", "modifiedAt"]
      = some [some (.text s.id), some (.text s.name), some (.text s.modifiedAt.written)] := rfl
  rw [Summary.ofWire?, hmembers]
  simp [Wire.required, Wire.text?, Timestamp.ofWire_written h]

/-- A document is read from its text on one line. -/
theorem Document.readJson_compact {d : Document} (h : d.modifiedAt.InRange) :
    Wire.readJson? Document.ofWire? d.toJson.compact = some d := by
  rw [Wire.readJson?, Json.read_compact (Document.spelt_tree Json.spelling_compact d),
    Option.bind_some, Document.ofWire_tree h]

/-- A document is read from its text over several lines. -/
theorem Document.readJson_pretty {d : Document} (h : d.modifiedAt.InRange) :
    Wire.readJson? Document.ofWire? d.toJson.pretty = some d := by
  rw [Wire.readJson?, Json.read_pretty (Document.spelt_tree Json.spelling_pretty d),
    Option.bind_some, Document.ofWire_tree h]

/-- A listing is read from its text, in the order of its summaries. -/
theorem Summary.readJson_compact {summaries : List Summary}
    (h : ∀ s ∈ summaries, s.modifiedAt.InRange) :
    Wire.readJson? (Wire.list? Summary.ofWire?) (Json.array (summaries.map toJson)).compact
      = some summaries := by
  have hspelt : List.Forall₂ Json.Compact (summaries.map toJson) (summaries.map tree) := by
    rw [List.forall₂_map_left_iff, List.forall₂_map_right_iff, List.forall₂_same]
    exact fun s _ => Summary.spelt_tree Json.spelling_compact s
  have hread : (summaries.map tree).map Wire.ofWritten
      = summaries.map fun s => Wire.ofWritten s.tree := List.map_map
  have hall : ∀ s ∈ summaries, Summary.ofWire? (Wire.ofWritten s.tree) = some s :=
    fun s hs => Summary.ofWire_tree (h s hs)
  rw [Wire.readJson?, Json.read_compact (Json.compact_array hspelt), Option.bind_some,
    Wire.ofWritten_array, hread, Wire.list?, List.mapM_map]
  exact Wire.mapM_eq_some hall

/-! ### Requests -/

/-- A save in JSON. -/
def SaveRequest.tree (r : SaveRequest) : Written :=
  .object [(some "name", .text (some r.name)), (some "sources", r.sources.tree)]

/-- A save of one source in JSON. -/
def FieldUpdate.tree (u : FieldUpdate) : Written :=
  .object [(some "field", .text (some u.field.name)), (some "text", .text (some u.text))]

/-- A save is read from its text on one line. -/
theorem SaveRequest.readJson_compact (r : SaveRequest) :
    Wire.readJson? SaveRequest.ofWire? r.toJson.compact = some r := by
  have hspelt : Json.Compact r.toJson r.tree := Json.compact_object (.cons
    ⟨rfl, Json.spelling_compact.text _⟩
    (.cons ⟨rfl, Sources.spelt_tree Json.spelling_compact r.sources⟩ .nil))
  rw [Wire.readJson?, Json.read_compact hspelt]
  rfl

/-- A save of one source is read from its text on one line. -/
theorem FieldUpdate.readJson_compact (u : FieldUpdate) :
    Wire.readJson? FieldUpdate.ofWire? u.toJson.compact = some u := by
  have hspelt : Json.Compact u.toJson u.tree := Json.compact_object (.cons
    ⟨rfl, Json.spelling_compact.text _⟩ (.cons ⟨rfl, Json.spelling_compact.text _⟩ .nil))
  have hfield : Stage.ofWire? (.text u.field.name) = some u.field := Stage.ofName?_name u.field
  have hmembers : (Wire.ofWritten u.tree).members? ["field", "text"]
      = some [some (.text u.field.name), some (.text u.text)] := rfl
  rw [Wire.readJson?, Json.read_compact hspelt, Option.bind_some, FieldUpdate.ofWire?, hmembers]
  simp [Wire.required, Wire.text?, hfield]

end MockupStudio
