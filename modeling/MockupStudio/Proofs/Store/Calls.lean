/-
Calls to a store, and what they are to do.

* `Call`, `Answer`: the operations of a store as data; `DocumentStore.answer`
  and `DocumentStore.run`: one call, and calls one after the other;
* `Catalogue`: names and sources by accepted ids, which is all that calls are
  about; `Call.refusal?` says which calls fail, `Catalogue.after` what the others
  do, `Catalogue.step` both;
* `Call.Follows`: a call does to the documents of a store what it does to the
  catalogue, and changed documents become newer;
* `DocumentStore.Refines`: a store follows the catalogue at every call;
  `DocumentStore.Refines.field_saved` says what this is for a field that is saved.
-/
import MockupStudio.Proofs.Store.Listing
import MockupStudio.Proofs.Store.Storing

namespace MockupStudio

/-- A call to a store. -/
inductive Call where
  | list
  | get (id : String)
  | save (id name : String) (sources : Sources)
  | saveField (id : String) (field : Stage) (text : String)
  | remove (id : String)
  | rename (id name : String)
  deriving Repr, DecidableEq

/-- What a call answers. -/
inductive Answer where
  | done
  | listing (summaries : List Summary)
  | document (document : Document)
  | failed (error : StoreError)
  deriving Repr, DecidableEq

/-- The documents of a store by their ids. -/
abbrev Documents := String → Option Document

namespace DocumentStore

variable {σ : Type}

/-- Carries out a call. -/
def perform (store : DocumentStore σ) (now : Timestamp) : Call → Storing σ Answer
  | .list => return .listing (← store.list)
  | .get id => return .document (← store.get id)
  | .save id name sources => do
    store.save now id name sources
    return .done
  | .saveField id field text => do
    store.saveField now id field text
    return .done
  | .remove id => do
    store.remove id
    return .done
  | .rename id name => do
    store.rename now id name
    return .done

/-- What a call answers, and what the store holds after it. -/
def answer (store : DocumentStore σ) (now : Timestamp) (call : Call) (contents : σ) : Answer × σ :=
  match store.perform now call contents with
  | .ok answer contents => (answer, contents)
  | .error e contents => (.failed e, contents)

/-- Calls one after the other, each with the reading of the clock. -/
def run (store : DocumentStore σ) : List (Timestamp × Call) → σ → List Answer × σ
  | [], contents => ([], contents)
  | (now, call) :: calls, contents =>
    let (answer, contents) := store.answer now call contents
    let (answers, contents) := run store calls contents
    (answer :: answers, contents)

/-- The documents that can be got from a store. -/
def documents (store : DocumentStore σ) (contents : σ) : Documents := fun id =>
  match store.get id contents with
  | .ok d _ => some d
  | .error _ _ => none

lemma answer_of_ok {store : DocumentStore σ} {now : Timestamp} {call : Call} {answer : Answer}
    {before after : σ} (h : store.perform now call before = .ok answer after) :
    store.answer now call before = (answer, after) := by
  rw [DocumentStore.answer, h]

lemma answer_of_error {store : DocumentStore σ} {now : Timestamp} {call : Call} {e : StoreError}
    {before after : σ} (h : store.perform now call before = .error e after) :
    store.answer now call before = (.failed e, after) := by
  rw [DocumentStore.answer, h]

lemma documents_of_ok {store : DocumentStore σ} {id : String} {d : Document} {before after : σ}
    (h : store.get id before = .ok d after) : store.documents before id = some d := by
  rw [documents, h]

lemma documents_of_error {store : DocumentStore σ} {id : String} {e : StoreError}
    {before after : σ} (h : store.get id before = .error e after) :
    store.documents before id = none := by
  rw [documents, h]

/-- A document that is found is renamed by saving its sources. -/
lemma answer_rename {store : DocumentStore σ} {id : String} {d : Document} {contents : σ}
    (h : store.get id contents = .ok d contents) (now : Timestamp) (name : String) :
    store.answer now (.rename id name) contents
      = store.answer now (.save id name d.sources) contents := by
  have hrename : store.rename now id name contents = store.save now id name d.sources contents :=
    Storing.bind_ok h
  have hperform : store.perform now (.rename id name) contents
      = store.perform now (.save id name d.sources) contents := Storing.bind_congr hrename
  rw [answer, answer, hperform]

lemma run_append (store : DocumentStore σ) (done calls : List (Timestamp × Call))
    (contents : σ) : store.run (done ++ calls) contents
      = ((store.run done contents).1 ++ (store.run calls (store.run done contents).2).1,
        (store.run calls (store.run done contents).2).2) := by
  induction done generalizing contents with
  | nil => rfl
  | cons call done ih =>
    simp only [List.cons_append, run, ih]

/-- The last of several calls is one on what the others leave. -/
lemma run_concat (store : DocumentStore σ) (done : List (Timestamp × Call)) (now : Timestamp)
    (call : Call) (contents : σ) : store.run (done ++ [(now, call)]) contents
      = ((store.run done contents).1 ++ [(store.answer now call (store.run done contents).2).1],
        (store.answer now call (store.run done contents).2).2) :=
  store.run_append done [(now, call)] contents

end DocumentStore

/-! ### The catalogue -/

/-- Names and sources by ids. -/
abbrev Catalogue := String → Option (String × Sources)

/-- The names and sources of documents. -/
def Documents.catalogue (documents : Documents) : Catalogue :=
  fun id => (documents id).map fun d => (d.name, d.sources)

/-- Why there is no document of an id, if there is none. -/
def Catalogue.absence? (catalogue : Catalogue) (id : String) : Option StoreError :=
  if Id.isValid id then if (catalogue id).isSome then none else some (.notFound id)
  else some (.invalidId id)

/-- Why a call fails, if it does. Only a save does without a document of its
id. -/
def Call.refusal? (catalogue : Catalogue) : Call → Option StoreError
  | list => none
  | save id _ _ => if Id.isValid id then none else some (.invalidId id)
  | get id | saveField id _ _ | remove id | rename id _ => catalogue.absence? id

/-- The id whose document a call changes, if it changes one. -/
def Call.target? : Call → Option String
  | list | get _ => none
  | save id _ _ | saveField id _ _ | remove id | rename id _ => some id

/-- What a call does that does not fail. -/
def Catalogue.after (catalogue : Catalogue) : Call → Catalogue
  | .list | .get _ => catalogue
  | .save id name sources => Function.update catalogue id (some (name, sources))
  | .saveField id field text =>
    Function.update catalogue id ((catalogue id).map fun e => (e.1, e.2.set field text))
  | .remove id => Function.update catalogue id none
  | .rename id name => Function.update catalogue id ((catalogue id).map fun e => (name, e.2))

/-- What a call does; one that fails does nothing. -/
def Catalogue.step (catalogue : Catalogue) (call : Call) : Catalogue :=
  match call.refusal? catalogue with
  | some _ => catalogue
  | none => catalogue.after call

/-- Whether an answer is the one of a call that does not fail: a listing shows
exactly the documents there are, in their order. -/
def Call.Fits (documents : Documents) : Call → Answer → Prop
  | list, answer => ∃ summaries, answer = .listing summaries
      ∧ summaries.Pairwise Summary.Precedes
      ∧ ∀ summary, summary ∈ summaries ↔ ∃ id d, documents id = some d ∧ d.summary = summary
  | get id, answer => ∃ d, answer = .document d ∧ documents id = some d
  | save _ _ _, answer | saveField _ _ _, answer | remove _, answer | rename _ _, answer =>
    answer = .done

lemma Call.isValid_of_save {catalogue : Catalogue} {id name : String} {sources : Sources}
    (h : (save id name sources).refusal? catalogue = none) : Id.isValid id := by
  by_contra hid
  simp [refusal?, hid] at h

lemma Call.Fits.ne_failed {documents : Documents} {call : Call} {answer : Answer}
    (h : call.Fits documents answer) (e : StoreError) : answer ≠ .failed e := by
  cases call with
  | list =>
    obtain ⟨summaries, rfl, -⟩ := h
    exact Answer.noConfusion
  | get id =>
    obtain ⟨d, rfl, -⟩ := h
    exact Answer.noConfusion
  | save | saveField | remove | rename =>
    obtain rfl := h
    exact Answer.noConfusion

/-- A call on documents follows the catalogue. -/
structure Call.Follows (call : Call) (before : Documents) (answer : Answer) (after : Documents) :
    Prop where
  /-- A call that is to fail says why and changes nothing. -/
  refused : ∀ e, call.refusal? before.catalogue = some e → answer = .failed e ∧ after = before
  fits : call.refusal? before.catalogue = none → call.Fits before answer
  catalogue : call.refusal? before.catalogue = none →
    after.catalogue = before.catalogue.after call
  /-- No other document is changed, its time included. -/
  others : ∀ id, call.target? ≠ some id → after id = before id
  /-- A changed document is newer than it was. -/
  later : ∀ id d d', call.target? = some id → before id = some d → after id = some d' →
    d.modifiedAt.Before d'.modifiedAt
  keyed : ∀ id d, after id = some d → Id.isValid id ∧ d.id = id

/-- A store does what is done to a catalogue without entries: at every moment the
names and sources of its documents are those of the catalogue, every call follows
the catalogue, and a call that fails leaves what the store holds as it is. -/
structure DocumentStore.Refines {σ : Type} (store : DocumentStore σ)
    (calls : List (Timestamp × Call)) (contents : σ) : Prop where
  catalogue : ∀ done rest, calls = done ++ rest →
    (store.documents (store.run done contents).2).catalogue
      = (done.map Prod.snd).foldl Catalogue.step fun _ => none
  follows : ∀ done now call rest, calls = done ++ (now, call) :: rest →
    call.Follows (store.documents (store.run done contents).2)
      (store.answer now call (store.run done contents).2).1
      (store.documents (store.answer now call (store.run done contents).2).2)
  unchanged : ∀ done now call rest e, calls = done ++ (now, call) :: rest →
    (store.answer now call (store.run done contents).2).1 = .failed e →
      (store.answer now call (store.run done contents).2).2 = (store.run done contents).2

/-- Where saving a field follows the catalogue and is done, there is a document of the id,
of which that field has the text, and the name and the other fields stay. -/
lemma Call.Follows.field_saved {before after : Documents} {id text : String} {field : Stage}
    (h : (Call.saveField id field text).Follows before .done after) :
    ∃ d d', before id = some d ∧ after id = some d' ∧ d'.name = d.name
      ∧ ∀ stage, d'.sources.get stage = if field = stage then text else d.sources.get stage := by
  cases hrefusal : (Call.saveField id field text).refusal? before.catalogue with
  | some e => cases (h.refused e hrefusal).1
  | none =>
    have hafter : after.catalogue id
        = (before.catalogue id).map fun e => (e.1, e.2.set field text) := by
      rw [h.catalogue hrefusal, Catalogue.after, Function.update_self]
    simp only [Documents.catalogue, Option.map_map] at hafter
    cases hd : before id with
    | none =>
      simp [Call.refusal?, Catalogue.absence?, Documents.catalogue, hd] at hrefusal
      split at hrefusal <;> cases hrefusal
    | some d =>
      rw [hd] at hafter
      obtain ⟨d', hd', hentry⟩ := Option.map_eq_some_iff.mp hafter
      obtain ⟨hname, hsources⟩ := Prod.mk.inj hentry
      refine ⟨d, d', rfl, hd', hname, fun stage => ?_⟩
      rw [hsources, PerStage.get_set]

/-- A field that is saved has its text, while the name and the other fields of the document
stay, and all other documents. -/
theorem DocumentStore.Refines.field_saved {σ : Type} {store : DocumentStore σ}
    {done rest : List (Timestamp × Call)} {contents : σ} {now : Timestamp} {id text : String}
    {field : Stage} (h : store.Refines (done ++ (now, .saveField id field text) :: rest) contents)
    (hdone : (store.answer now (.saveField id field text) (store.run done contents).2).1 = .done) :
    let before := store.documents (store.run done contents).2
    let after := store.documents
      (store.answer now (.saveField id field text) (store.run done contents).2).2
    (∃ d d', before id = some d ∧ after id = some d' ∧ d'.name = d.name
        ∧ ∀ stage, d'.sources.get stage = if field = stage then text else d.sources.get stage)
      ∧ ∀ other, other ≠ id → after other = before other := by
  have hfollows := h.follows done now (.saveField id field text) rest rfl
  rw [hdone] at hfollows
  refine ⟨hfollows.field_saved, fun other hother => hfollows.others other fun htarget => ?_⟩
  exact hother (Option.some.inj htarget).symm

end MockupStudio
