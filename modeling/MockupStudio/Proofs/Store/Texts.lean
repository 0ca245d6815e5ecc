/-
Stores that keep the texts of a document.

* `DocumentStore.Keeps`: what is got from a store is what it holds, and a save
  of one text changes the text of its part only;
* `Shelf.find_eq_ok`, `Shelf.saveField_eq`: what a shelf answers;
* `Shelf.store_keeps`: a shelf keeps texts.
-/
import MockupStudio.Proofs.Store.Storing
import MockupStudio.Store.Memory
import Mathlib

namespace MockupStudio

/-- Stores that hold the texts of a document as long as nobody else changes it:
what is got is held, a save changes the text of its part only, and what is held
is what is got. -/
structure DocumentStore.Keeps {σ : Type} (store : DocumentStore σ) (id : String)
    (holds : σ → Sources → Prop) : Prop where
  of_get : ∀ {contents contents' document}, store.get id contents = .ok document contents' →
    holds contents' document.sources
  saveField : ∀ {moment stage text contents contents' sources}, holds contents sources →
    store.saveField moment id stage text contents = .ok () contents' →
      holds contents' (sources.set stage text)
  get : ∀ {contents sources}, holds contents sources → ∃ document contents',
    store.get id contents = .ok document contents' ∧ document.sources = sources

/-! ### Documents on a shelf -/

namespace Shelf

variable {id : String} {shelf shelf' : Shelf} {d : Document}

lemma find_eq_ok : find id shelf = .ok d shelf'
    ↔ Id.isValid id ∧ Bindings.get? id shelf = some d ∧ shelf' = shelf := by
  rw [find, checkId]
  cases hvalid : Id.isValid id <;> cases hget : Bindings.get? id shelf <;>
    simp [hget, eq_comm]

lemma saveField_eq (h : find id shelf = .ok d shelf) (now : Timestamp) (stage : Stage)
    (text : String) : saveField now id stage text shelf
      = .ok () (Bindings.insert id (d.updateField now stage text) shelf) := by
  rw [saveField, Storing.bind_ok h, Storing.modify_apply]

/-- A shelf keeps the texts of each of its documents. -/
theorem store_keeps (id : String) : store.Keeps id fun shelf sources =>
    ∃ d, find id shelf = .ok d shelf ∧ d.sources = sources where
  of_get {shelf shelf' d} h := by
    obtain ⟨hvalid, hget, rfl⟩ := find_eq_ok.mp h
    exact ⟨d, h, rfl⟩
  saveField {now stage text shelf shelf' sources} h hsave := by
    obtain ⟨d, hfind, rfl⟩ := h
    cases (saveField_eq hfind now stage text).symm.trans hsave
    have hvalid := (find_eq_ok.mp hfind).1
    refine ⟨d.updateField now stage text, find_eq_ok.mpr ⟨hvalid, ?_, rfl⟩, rfl⟩
    rw [Bindings.get?_insert, if_pos rfl]
  get {shelf sources} h := by
    obtain ⟨d, hfind, hsources⟩ := h
    exact ⟨d, shelf, hfind, hsources⟩

end Shelf

end MockupStudio
