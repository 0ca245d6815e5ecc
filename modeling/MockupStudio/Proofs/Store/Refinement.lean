/-
A directory of documents does what a shelf does.

* `Document.readable_of_inRange`: which documents can be read back;
* `Folder.Represents.documents_eq`: the documents got from a directory are those
  of the shelf;
* `Folder.run_represents`: so it is after any calls, and their answers are the
  same;
* `Folder.run_eq_shelf_run`: from an empty store, both follow the catalogue at
  every call, if documents can be read back from their texts.
-/
import MockupStudio.Proofs.Document.Encoding
import MockupStudio.Proofs.Store.Directory

namespace MockupStudio

/-- A document can be read back if its time is in range. -/
lemma Document.readable_of_inRange {d : Document} (h : d.modifiedAt.InRange) : d.Readable := by
  rw [Readable, Folder.decode?, Folder.encode, readJson_pretty h]
  rfl

namespace Folder

variable {folder : Folder} {shelf : Shelf}

/-- The documents got from a directory are those of the shelf. -/
lemma Represents.documents_eq (h : folder.Represents shelf) :
    store.documents folder = Shelf.store.documents shelf := by
  funext id
  cases habsent : (Shelf.catalogue shelf).absence? id with
  | none =>
    obtain ⟨d, hd⟩ := Shelf.exists_find habsent
    rw [DocumentStore.documents_of_ok (h.load_ok hd), DocumentStore.documents_of_ok hd]
  | some e =>
    rw [DocumentStore.documents_of_error (h.load_error habsent),
      DocumentStore.documents_of_error (Shelf.find_error habsent)]

/-- Whether the documents on the shelf can be read back at every moment of a
run. -/
def ReadableThroughout (calls : List (Timestamp × Call)) (shelf : Shelf) : Prop :=
  ∀ done rest, calls = done ++ rest → (Shelf.store.run done shelf).2.Readable

lemma ReadableThroughout.of_append {done rest : List (Timestamp × Call)}
    (h : ReadableThroughout (done ++ rest) shelf) : ReadableThroughout done shelf :=
  fun before after hsplit => h before (after ++ rest) (by rw [hsplit, List.append_assoc])

/-- Calls one after the other answer the same on a directory and on a shelf, and
leave a directory that holds the documents of the shelf. -/
theorem run_represents (h : folder.Represents shelf) (hsound : shelf.Sound)
    (calls : List (Timestamp × Call)) (hreadable : ReadableThroughout calls shelf) :
    (store.run calls folder).1 = (Shelf.store.run calls shelf).1
      ∧ (store.run calls folder).2.Represents (Shelf.store.run calls shelf).2 := by
  induction calls using List.reverseRecOn with
  | nil => exact ⟨rfl, h⟩
  | append_singleton done call ih =>
    obtain ⟨now, call⟩ := call
    obtain ⟨hanswers, hrepresents⟩ := ih hreadable.of_append
    have hafter := hreadable (done ++ [(now, call)]) [] (List.append_nil _).symm
    rw [DocumentStore.run_concat] at hafter
    have hlast := hrepresents.agrees (hsound.run done) now call hafter
    rw [DocumentStore.run_concat, DocumentStore.run_concat, hanswers, hlast.answer]
    exact ⟨rfl, hlast.represents⟩

/-- From an empty store and with the same readings of the clock, a shelf and a
directory answer the same to all calls, and both follow the catalogue at every
call; what this is for a field that is saved, `DocumentStore.Refines.field_saved` says.
The documents that are stored must be such as can be read back from their texts. -/
theorem run_eq_shelf_run (calls : List (Timestamp × Call))
    (hreadable : ReadableThroughout calls []) :
    (store.run calls []).1 = (Shelf.store.run calls []).1
      ∧ Shelf.store.Refines calls [] ∧ store.Refines calls [] := by
  have hbefore (done rest) (hsplit : calls = done ++ rest) :
      (store.run done []).2.Represents (Shelf.store.run done []).2 := by
    subst hsplit
    exact (run_represents represents_empty Shelf.sound_empty done hreadable.of_append).2
  have hdocuments (done rest) (hsplit : calls = done ++ rest) :=
    (hbefore done rest hsplit).documents_eq
  have hagrees (done now call rest) (hsplit : calls = done ++ (now, call) :: rest) := by
    have hafter := hreadable (done ++ [(now, call)]) rest (by rw [hsplit, List.append_assoc]; rfl)
    rw [DocumentStore.run_concat] at hafter
    exact (hbefore done _ hsplit).agrees (Shelf.sound_empty.run done) now call hafter
  refine ⟨(run_represents represents_empty Shelf.sound_empty calls hreadable).1,
    Shelf.refines calls, ?_, ?_, ?_⟩
  · intro done rest hsplit
    rw [hdocuments done rest hsplit]
    exact (Shelf.refines calls).catalogue done rest hsplit
  · intro done now call rest hsplit
    have hafter := hdocuments (done ++ [(now, call)]) rest (by rw [hsplit, List.append_assoc]; rfl)
    rw [DocumentStore.run_concat, DocumentStore.run_concat] at hafter
    rw [hdocuments done _ hsplit, (hagrees done now call rest hsplit).answer, hafter]
    exact (Shelf.refines calls).follows done now call rest hsplit
  · intro done now call rest e hsplit hfailed
    exact (hagrees done now call rest hsplit).unchanged e hfailed

/-! ### A run -/

/-- A memo as it is first saved, and with a style. -/
def plainMemo : Document := ⟨"a", "A", ⟨0, 0⟩, Sources.empty⟩
def styledMemo : Document := ⟨"a", "A", ⟨0, 1000⟩, Sources.empty.set .style "p"⟩

/-- Calls about a memo and about a document that there is not, while the clock
stands still. -/
def memoCalls : List (Timestamp × Call) :=
  [(⟨0, 0⟩, .save "a" "A" Sources.empty), (⟨0, 0⟩, .saveField "a" .style "p"),
    (⟨0, 0⟩, .rename "b" "B"), (⟨0, 0⟩, .list)]

lemma memos_readable : ∀ d ∈ [plainMemo, styledMemo], d.Readable := by
  intro d hd
  refine d.readable_of_inRange ?_
  simp only [List.mem_cons, List.not_mem_nil, or_false] at hd
  rcases hd with rfl | rfl <;> decide

/-- What is on the shelf can be read back if it is the memo. -/
lemma readable_of_memos {calls : List (Timestamp × Call)} (h : ∀ done ∈ calls.inits,
    ∀ entry ∈ (Shelf.store.run done []).2, entry.2 ∈ [plainMemo, styledMemo]) :
    ReadableThroughout calls [] := by
  intro done rest hsplit id d hd
  have hdone : done ∈ calls.inits := (List.mem_inits _ _).mpr ⟨rest, hsplit.symm⟩
  exact memos_readable d (h done hdone (id, d) (Bindings.mem_of_get?_eq hd))

lemma memoCalls_readable : ReadableThroughout memoCalls [] :=
  readable_of_memos (by decide +kernel)

/-- The memo's directory answers what its shelf answers. -/
theorem memo_run_eq_shelf_run : (store.run memoCalls []).1
      = [.done, .done, .failed (.notFound "b"), .listing [⟨"a", "A", ⟨0, 1000⟩⟩]]
    ∧ Shelf.store.Refines memoCalls [] ∧ store.Refines memoCalls [] := by
  have hrun := run_eq_shelf_run memoCalls memoCalls_readable
  refine ⟨hrun.1.trans ?_, hrun.2⟩
  decide +kernel

end Folder

end MockupStudio
