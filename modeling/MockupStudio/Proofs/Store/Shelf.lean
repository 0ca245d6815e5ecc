/-
What calls do to a shelf.

* `Shelf.Sound`: every document is on the shelf once, under its own id;
* `Shelf.answer_refused`, `Shelf.answer_get`, `Shelf.answer_save` and so on: a
  call as what it answers and leaves;
* `Shelf.follows`: every call on a sound shelf follows the catalogue, and leaves
  a sound shelf;
* `Shelf.refines`: so do calls one after the other, from an empty shelf.
-/
import MockupStudio.Proofs.Bindings
import MockupStudio.Proofs.Store.Calls
import MockupStudio.Proofs.Store.Texts

namespace MockupStudio

/-- The document that is saved over one, or saved as a new one. -/
def Document.savedOver (now : Timestamp) (id name : String) (sources : Sources) :
    Option Document → Document
  | some d => d.overwrite now name sources
  | none => ⟨id, name, now, sources⟩

namespace Shelf

variable {shelf : Shelf} {now : Timestamp} {id : String} {d : Document}

/-- Every document is on the shelf once, under its own id. -/
structure Sound (shelf : Shelf) : Prop where
  nodup : (Bindings.keys shelf).Nodup
  keyed : ∀ id d, Bindings.get? id shelf = some d → Id.isValid id ∧ d.id = id

lemma sound_empty : Sound [] := ⟨List.nodup_nil, fun _ _ h => absurd h (by simp)⟩

lemma Sound.insert (h : shelf.Sound) (hid : Id.isValid id) (hd : d.id = id) :
    Sound (Bindings.insert id d shelf) := by
  refine ⟨Bindings.nodup_keys_insert h.nodup, fun k e he => ?_⟩
  rw [Bindings.get?_insert] at he
  split at he
  · next hk =>
    cases hk
    cases he
    exact ⟨hid, hd⟩
  · exact h.keyed k e he

lemma Sound.erase (h : shelf.Sound) : Sound (Bindings.erase id shelf) := by
  refine ⟨Bindings.nodup_keys_erase h.nodup, fun k e he => ?_⟩
  rw [Bindings.get?_erase] at he
  split at he
  · exact absurd he (by simp)
  · exact h.keyed k e he

lemma Sound.find (h : shelf.Sound) (hd : Bindings.get? id shelf = some d) :
    find id shelf = .ok d shelf :=
  find_eq_ok.mpr ⟨(h.keyed id d hd).1, hd, rfl⟩

/-- The names and sources of the documents of a shelf. -/
def catalogue (shelf : Shelf) : Catalogue :=
  Documents.catalogue fun id => Bindings.get? id shelf

/-! ### Finding a document -/

/-- There is no document of a text that is no id, or of an id that is not on the shelf. -/
lemma absence_cases {e : StoreError} (h : (catalogue shelf).absence? id = some e) :
    ¬ Id.isValid id ∧ e = .invalidId id
      ∨ Id.isValid id ∧ Bindings.get? id shelf = none ∧ e = .notFound id := by
  rw [Catalogue.absence?] at h
  split at h
  · next hid =>
    split at h
    · cases h
    · next hmissing =>
      cases h
      rw [Bool.not_eq_true, Option.isSome_eq_false_iff, Option.isNone_iff_eq_none] at hmissing
      exact .inr ⟨hid, Option.map_eq_none_iff.mp hmissing, rfl⟩
  · next hid =>
    cases h
    exact .inl ⟨hid, rfl⟩

/-- A document that is not found is missing from the catalogue. -/
lemma find_error {e : StoreError} (h : (catalogue shelf).absence? id = some e) :
    find id shelf = .error e shelf := by
  obtain ⟨hid, rfl⟩ | ⟨hid, hd, rfl⟩ := absence_cases h
  · simp [find, checkId, hid]
  · simp [find, checkId, hid, hd]

lemma exists_find (h : (catalogue shelf).absence? id = none) :
    ∃ d, find id shelf = .ok d shelf := by
  rw [Catalogue.absence?, catalogue, Documents.catalogue] at h
  cases hid : Id.isValid id <;> cases hd : Bindings.get? id shelf <;> simp_all [find_eq_ok]

lemma documents_eq (h : shelf.Sound) : store.documents shelf = fun id => Bindings.get? id shelf := by
  funext id
  cases habsent : (catalogue shelf).absence? id with
  | none =>
    obtain ⟨d, hd⟩ := exists_find habsent
    rw [DocumentStore.documents_of_ok hd, (find_eq_ok.mp hd).2.1]
  | some e =>
    have hfind := find_error habsent
    rw [DocumentStore.documents_of_error hfind]
    cases hd : Bindings.get? id shelf with
    | none => rfl
    | some d => cases (h.find hd).symm.trans hfind

lemma Sound.savedOver_id (h : shelf.Sound) (now : Timestamp) (id name : String)
    (sources : Sources) :
    (Document.savedOver now id name sources (Bindings.get? id shelf)).id = id := by
  cases hd : Bindings.get? id shelf with
  | none => rfl
  | some d => exact (h.keyed id d hd).2

/-! ### Calls -/

lemma answer_list : store.answer now .list shelf = (.listing (summaries shelf), shelf) := rfl

lemma answer_get (h : find id shelf = .ok d shelf) :
    store.answer now (.get id) shelf = (.document d, shelf) :=
  DocumentStore.answer_of_ok (Storing.bind_ok h)

lemma save_eq (hid : Id.isValid id) (name : String) (sources : Sources) (shelf : Shelf) :
    save now id name sources shelf = .ok () (Bindings.insert id
      (Document.savedOver now id name sources (Bindings.get? id shelf)) shelf) := by
  cases hd : Bindings.get? id shelf <;> simp [save, checkId, hid, hd, Document.savedOver]

lemma answer_save (hid : Id.isValid id) (name : String) (sources : Sources) :
    store.answer now (.save id name sources) shelf = (.done, Bindings.insert id
      (Document.savedOver now id name sources (Bindings.get? id shelf)) shelf) :=
  DocumentStore.answer_of_ok (Storing.bind_ok (save_eq hid name sources shelf))

lemma answer_saveField (h : find id shelf = .ok d shelf) (field : Stage) (text : String) :
    store.answer now (.saveField id field text) shelf
      = (.done, Bindings.insert id (d.updateField now field text) shelf) :=
  DocumentStore.answer_of_ok (Storing.bind_ok (saveField_eq h now field text))

lemma answer_remove (h : find id shelf = .ok d shelf) :
    store.answer now (.remove id) shelf = (.done, Bindings.erase id shelf) :=
  DocumentStore.answer_of_ok (Storing.bind_ok (Storing.bind_ok h))

/-- A call that fails says why and leaves the shelf as it is. -/
lemma answer_refused {call : Call} {e : StoreError} (h : call.refusal? (catalogue shelf) = some e) :
    store.answer now call shelf = (.failed e, shelf) := by
  cases call with
  | list => cases h
  | save id name sources =>
    rw [Call.refusal?] at h
    split at h
    · cases h
    · next hid =>
      cases h
      simp [DocumentStore.answer, DocumentStore.perform, store, save, checkId, hid]
  | get id | saveField id field text | remove id | rename id name =>
    have hfind := find_error h
    simp [DocumentStore.answer, DocumentStore.perform, DocumentStore.rename, store, saveField,
      remove, hfind]

/-! ### What calls leave -/

/-- What a call leaves on a shelf: what there was, where it is about no document
of the shelf, a document in place of an older one, or one document less. -/
inductive Leaves (call : Call) (shelf : Shelf) : Shelf → Prop where
  | same : (∀ id, call.target? = some id → Bindings.get? id shelf = none) →
      Leaves call shelf shelf
  | put (id : String) (d : Document) : call.target? = some id → Id.isValid id → d.id = id →
      (∀ old, Bindings.get? id shelf = some old → old.modifiedAt.Before d.modifiedAt) →
      Leaves call shelf (Bindings.insert id d shelf)
  | gone (id : String) : call.target? = some id → Leaves call shelf (Bindings.erase id shelf)

lemma not_found_of_refused (h : shelf.Sound) {call : Call} {e : StoreError}
    (hrefused : call.refusal? (catalogue shelf) = some e) (hid : call.target? = some id) :
    Bindings.get? id shelf = none := by
  cases hd : Bindings.get? id shelf with
  | none => rfl
  | some d =>
    have hvalid := (h.keyed id d hd).1
    cases call <;> cases hid <;>
      simp [Call.refusal?, Catalogue.absence?, catalogue, Documents.catalogue, hvalid, hd]
        at hrefused

lemma leaves_save (h : shelf.Sound) {call : Call} (hcall : call.target? = some id)
    (hid : Id.isValid id) (name : String) (sources : Sources) :
    Leaves call shelf (store.answer now (.save id name sources) shelf).2 := by
  rw [answer_save hid]
  refine .put id _ hcall hid (h.savedOver_id now id name sources) fun old hold => ?_
  rw [hold]
  exact Document.before_changeTime now old.modifiedAt

lemma leaves (h : shelf.Sound) (now : Timestamp) (call : Call) :
    Leaves call shelf (store.answer now call shelf).2 := by
  cases hrefused : call.refusal? (catalogue shelf) with
  | some e =>
    rw [answer_refused hrefused]
    exact .same fun id => not_found_of_refused h hrefused
  | none =>
    cases call with
    | list => exact .same (by simp [Call.target?])
    | get id =>
      obtain ⟨d, hd⟩ := exists_find hrefused
      rw [answer_get hd]
      exact .same (by simp [Call.target?])
    | save id name sources =>
      have hid := Call.isValid_of_save hrefused
      exact leaves_save h rfl hid name sources
    | saveField id field text =>
      obtain ⟨d, hd⟩ := exists_find hrefused
      obtain ⟨hid, hget, -⟩ := find_eq_ok.mp hd
      rw [answer_saveField hd]
      refine .put id _ rfl hid (h.keyed id d hget).2 fun old hold => ?_
      cases hget.symm.trans hold
      exact Document.before_changeTime now d.modifiedAt
    | remove id =>
      obtain ⟨d, hd⟩ := exists_find hrefused
      rw [answer_remove hd]
      exact .gone id rfl
    | rename id name =>
      obtain ⟨d, hd⟩ := exists_find hrefused
      rw [DocumentStore.answer_rename hd]
      exact leaves_save h rfl (find_eq_ok.mp hd).1 name d.sources

namespace Leaves

variable {call : Call} {after : Shelf}

lemma sound (h : shelf.Sound) (hleaves : Leaves call shelf after) : after.Sound := by
  cases hleaves with
  | same _ => exact h
  | put id d _ hid hd _ => exact h.insert hid hd
  | gone id _ => exact h.erase

/-- Documents that a call is not about stay as they are. -/
lemma get?_eq (hleaves : Leaves call shelf after) (hid : call.target? ≠ some id) :
    Bindings.get? id after = Bindings.get? id shelf := by
  cases hleaves with
  | same _ => rfl
  | put k d hk _ _ _ =>
    rw [Bindings.get?_insert, if_neg fun heq : k = id => hid (heq ▸ hk)]
  | gone k hk =>
    rw [Bindings.get?_erase, if_neg fun heq : id = k => hid (heq ▸ hk)]

/-- The document that a call is about is newer afterwards, if there still is
one. -/
lemma newer {d d' : Document} (hleaves : Leaves call shelf after) (hid : call.target? = some id)
    (hd : Bindings.get? id shelf = some d) (hd' : Bindings.get? id after = some d') :
    d.modifiedAt.Before d'.modifiedAt := by
  cases hleaves with
  | same hnone => exact absurd hd (by simp [hnone id hid])
  | put k e hk _ _ hnewer =>
    cases hk.symm.trans hid
    rw [Bindings.get?_insert, if_pos rfl] at hd'
    cases hd'
    exact hnewer d hd
  | gone k hk =>
    cases hk.symm.trans hid
    rw [Bindings.get?_erase, if_pos rfl] at hd'
    cases hd'

end Leaves

lemma Sound.answer (h : shelf.Sound) (now : Timestamp) (call : Call) :
    (store.answer now call shelf).2.Sound :=
  (leaves h now call).sound h

/-! ### Following the catalogue -/

lemma catalogue_insert (shelf : Shelf) (id : String) (d : Document) :
    catalogue (Bindings.insert id d shelf)
      = Function.update (catalogue shelf) id (some (d.name, d.sources)) := by
  funext k
  rw [catalogue, Documents.catalogue, Bindings.get?_insert, Function.update_apply]
  by_cases hk : k = id
  · rw [if_pos hk.symm, if_pos hk]
    rfl
  · rw [if_neg (Ne.symm hk), if_neg hk]
    rfl

lemma catalogue_erase (shelf : Shelf) (id : String) :
    catalogue (Bindings.erase id shelf) = Function.update (catalogue shelf) id none := by
  funext k
  rw [catalogue, Documents.catalogue, Bindings.get?_erase, Function.update_apply]
  split <;> rfl

lemma catalogue_of_find (h : find id shelf = .ok d shelf) :
    catalogue shelf id = some (d.name, d.sources) := by
  rw [catalogue, Documents.catalogue, (find_eq_ok.mp h).2.1]
  rfl

lemma savedOver_entry (now : Timestamp) (id name : String) (sources : Sources)
    (old : Option Document) : ((Document.savedOver now id name sources old).name,
      (Document.savedOver now id name sources old).sources) = (name, sources) := by
  cases old <;> rfl

/-- A call that does not fail does to a shelf what it does to the catalogue. -/
lemma catalogue_answer {call : Call} (h : call.refusal? (catalogue shelf) = none)
    (now : Timestamp) :
    catalogue (store.answer now call shelf).2 = (catalogue shelf).after call := by
  cases call with
  | list => rfl
  | get id =>
    obtain ⟨d, hd⟩ := exists_find h
    rw [answer_get hd]
    rfl
  | save id name sources =>
    have hid := Call.isValid_of_save h
    rw [answer_save hid, catalogue_insert, savedOver_entry]
    rfl
  | saveField id field text =>
    obtain ⟨d, hd⟩ := exists_find h
    rw [answer_saveField hd, catalogue_insert, Catalogue.after, catalogue_of_find hd]
    rfl
  | remove id =>
    obtain ⟨d, hd⟩ := exists_find h
    rw [answer_remove hd, catalogue_erase]
    rfl
  | rename id name =>
    obtain ⟨d, hd⟩ := exists_find h
    rw [DocumentStore.answer_rename hd, answer_save (find_eq_ok.mp hd).1, catalogue_insert,
      savedOver_entry, Catalogue.after, catalogue_of_find hd]
    rfl

lemma catalogue_step (now : Timestamp) (call : Call) (shelf : Shelf) :
    catalogue (store.answer now call shelf).2 = (catalogue shelf).step call := by
  rw [Catalogue.step]
  cases hrefused : call.refusal? (catalogue shelf) with
  | some e => rw [answer_refused hrefused]
  | none => exact catalogue_answer hrefused now

/-- Calls one after the other do to a shelf what they do to the catalogue. -/
lemma catalogue_run (calls : List (Timestamp × Call)) (shelf : Shelf) :
    catalogue (store.run calls shelf).2
      = (calls.map Prod.snd).foldl Catalogue.step (catalogue shelf) := by
  induction calls using List.reverseRecOn with
  | nil => rfl
  | append_singleton done call ih =>
    obtain ⟨now, call⟩ := call
    rw [DocumentStore.run_concat, catalogue_step, ih, List.map_append, List.foldl_append]
    rfl

/-- The summaries of a sound shelf, one for each of its documents. -/
lemma nodup_ids (h : shelf.Sound) :
    ((shelf.map fun (_, d) => d.summary).map Summary.id).Nodup := by
  have hids : (shelf.map fun (_, d) => d.summary).map Summary.id = Bindings.keys shelf := by
    rw [List.map_map, Bindings.keys]
    refine List.map_congr_left ?_
    rintro ⟨id, d⟩ hmem
    exact (h.keyed id d ((Bindings.mem_iff_get?_eq h.nodup).mp hmem)).2
  rw [hids]
  exact h.nodup

lemma mem_summaries (h : shelf.Sound) (summary : Summary) : summary ∈ summaries shelf
    ↔ ∃ id d, Bindings.get? id shelf = some d ∧ d.summary = summary := by
  rw [summaries, (Summary.perm_newestFirst _).mem_iff, List.mem_map]
  constructor
  · rintro ⟨⟨id, d⟩, hmem, hd⟩
    exact ⟨id, d, (Bindings.mem_iff_get?_eq h.nodup).mp hmem, hd⟩
  · rintro ⟨id, d, hget, hd⟩
    exact ⟨(id, d), Bindings.mem_of_get?_eq hget, hd⟩

/-- What is answered to a call that does not fail. -/
lemma fits (h : shelf.Sound) {call : Call} (hcall : call.refusal? (catalogue shelf) = none)
    (now : Timestamp) :
    call.Fits (fun id => Bindings.get? id shelf) (store.answer now call shelf).1 := by
  cases call with
  | list =>
    exact ⟨summaries shelf, rfl, Summary.pairwise_newestFirst (nodup_ids h), mem_summaries h⟩
  | get id =>
    obtain ⟨d, hd⟩ := exists_find hcall
    rw [answer_get hd]
    exact ⟨d, rfl, (find_eq_ok.mp hd).2.1⟩
  | save id name sources =>
    have hid := Call.isValid_of_save hcall
    rw [answer_save hid]
    rfl
  | saveField id field text =>
    obtain ⟨d, hd⟩ := exists_find hcall
    rw [answer_saveField hd]
    rfl
  | remove id =>
    obtain ⟨d, hd⟩ := exists_find hcall
    rw [answer_remove hd]
    rfl
  | rename id name =>
    obtain ⟨d, hd⟩ := exists_find hcall
    rw [DocumentStore.answer_rename hd, answer_save (find_eq_ok.mp hd).1]
    rfl

/-- Every call on a sound shelf follows the catalogue. -/
theorem follows (h : shelf.Sound) (now : Timestamp) (call : Call) :
    call.Follows (store.documents shelf) (store.answer now call shelf).1
      (store.documents (store.answer now call shelf).2) := by
  have hleaves := leaves h now call
  have hsound := h.answer now call
  rw [documents_eq h, documents_eq hsound]
  exact {
    refused := fun e he => by
      rw [answer_refused he]
      exact ⟨rfl, rfl⟩
    fits := fun hcall => fits h hcall now
    catalogue := fun hcall => catalogue_answer hcall now
    others := fun id hid => hleaves.get?_eq hid
    later := fun id d d' hid hd hd' => hleaves.newer hid hd hd'
    keyed := fun id d hd => hsound.keyed id d hd }

/-- A call that fails leaves a shelf as it is. -/
lemma answer_failed (h : shelf.Sound) {call : Call} {e : StoreError}
    (hfailed : (store.answer now call shelf).1 = .failed e) :
    (store.answer now call shelf).2 = shelf := by
  cases hrefused : call.refusal? (catalogue shelf) with
  | some e' => rw [answer_refused hrefused]
  | none => exact absurd hfailed ((fits h hrefused now).ne_failed e)

lemma Sound.run (h : shelf.Sound) (calls : List (Timestamp × Call)) :
    (store.run calls shelf).2.Sound := by
  induction calls using List.reverseRecOn with
  | nil => exact h
  | append_singleton done call ih =>
    obtain ⟨now, call⟩ := call
    rw [DocumentStore.run_concat]
    exact ih.answer now call

/-- Calls one after the other follow the catalogue, from an empty shelf. -/
theorem refines (calls : List (Timestamp × Call)) : store.Refines calls [] where
  catalogue done _ _ := by
    rw [documents_eq (sound_empty.run done)]
    exact catalogue_run done []
  follows done now call _ _ := follows (sound_empty.run done) now call
  unchanged done _ _ _ _ _ h := answer_failed (sound_empty.run done) h

end Shelf

end MockupStudio
