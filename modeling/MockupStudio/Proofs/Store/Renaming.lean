/-
A rename while sources of the document are saved.

* `DocumentStore.renameAmid`: the two halves of a rename, with saves of sources
  before, between and after them; with none between them it is a rename among
  saves (`DocumentStore.renameAmid_nil`);
* `Shelf.renameAmid_keeps_iff`: the document has the new name, but what is saved
  between the halves is taken back. No text is lost exactly when every part saved
  between them is saved again after them or left with the text it had;
* `Shelf.memo_loses_style`: a style saved between the halves is lost.
-/
import MockupStudio.Proofs.Preview.Autosave
import MockupStudio.Proofs.Store.Shelf

namespace MockupStudio

/-- A save of one source, with the reading of the clock. -/
abbrev SourceSave := Timestamp × Stage × String

namespace DocumentStore

variable {σ : Type}

/-- Saves of sources of a document, one after the other. -/
def saveSources (store : DocumentStore σ) (id : String) : List SourceSave → Storing σ Unit
  | [] => pure ()
  | (now, field, text) :: saves => do
    store.saveField now id field text
    saveSources store id saves

/-- A rename with saves of sources before it, between its two halves and after
it. -/
def renameAmid (store : DocumentStore σ) (now : Timestamp) (id name : String)
    (before between after : List SourceSave) : Storing σ Unit := do
  store.saveSources id before
  let document ← store.get id
  store.saveSources id between
  store.save now id name document.sources
  store.saveSources id after

/-- With no saves between its halves, this is a rename among saves. -/
theorem renameAmid_nil (store : DocumentStore σ) (now : Timestamp) (id name : String)
    (before after : List SourceSave) : store.renameAmid now id name before [] after = (do
      store.saveSources id before
      store.rename now id name
      store.saveSources id after) := by
  simp only [renameAmid, rename, saveSources, pure_bind, bind_assoc]

end DocumentStore

lemma Sources.written_append (sources : Sources) (saves more : List (Stage × String)) :
    sources.written (saves ++ more) = (sources.written saves).written more :=
  List.foldl_append

/-- Saves that are taken back before others do not show exactly when each part
among them is saved again or was left with the text it had. -/
lemma Sources.written_eq_iff (sources : Sources) (between after : List (Stage × String)) :
    sources.written after = (sources.written between).written after
      ↔ ∀ stage text, Preview.textsOf stage after = [] →
        (Preview.textsOf stage between).getLast? = some text → text = sources.get stage := by
  constructor
  · intro heq stage text hafter hbetween
    have hget := congrArg (fun s => PerStage.get s stage) heq
    simp only [Sources.get_written, hafter, hbetween] at hget
    exact hget.symm
  · intro h
    refine PerStage.ext_get fun stage => ?_
    simp only [Sources.get_written]
    cases hafter : (Preview.textsOf stage after).getLast? with
    | some text => rfl
    | none =>
      cases hbetween : (Preview.textsOf stage between).getLast? with
      | none => rfl
      | some text => exact (h stage text (List.getLast?_eq_none_iff.mp hafter) hbetween).symm

namespace Shelf

variable {shelf : Shelf} {id : String} {d : Document}

lemma find_insert (hid : Id.isValid id) (d : Document) (shelf : Shelf) :
    find id (Bindings.insert id d shelf) = .ok d (Bindings.insert id d shelf) := by
  refine find_eq_ok.mpr ⟨hid, ?_, rfl⟩
  rw [Bindings.get?_insert, if_pos rfl]

/-- After saves of its sources a document has the last text of each part. -/
lemma saveSources_ok (hd : find id shelf = .ok d shelf) (saves : List SourceSave) :
    ∃ d' shelf', store.saveSources id saves shelf = .ok () shelf'
      ∧ find id shelf' = .ok d' shelf' ∧ d'.name = d.name
      ∧ d'.sources = d.sources.written (saves.map Prod.snd) := by
  induction saves generalizing shelf d with
  | nil => exact ⟨d, shelf, rfl, hd, rfl, rfl⟩
  | cons save saves ih =>
    obtain ⟨now, field, text⟩ := save
    have hid := (find_eq_ok.mp hd).1
    obtain ⟨d', shelf', hsaves, hd', hname, hsources⟩ :=
      ih (find_insert hid (d.updateField now field text) shelf)
    exact ⟨d', shelf', (Storing.bind_ok (saveField_eq hd now field text)).trans hsaves, hd',
      hname, hsources⟩

lemma save_ok (hid : Id.isValid id) (now : Timestamp) (name : String) (sources : Sources)
    (shelf : Shelf) : ∃ d' shelf', store.save now id name sources shelf = .ok () shelf'
      ∧ find id shelf' = .ok d' shelf' ∧ d'.name = name ∧ d'.sources = sources := by
  refine ⟨_, _, save_eq hid name sources shelf, find_insert hid _ shelf, ?_, ?_⟩
  · exact congrArg Prod.fst (savedOver_entry now id name sources (Bindings.get? id shelf))
  · exact congrArg Prod.snd (savedOver_entry now id name sources (Bindings.get? id shelf))

/-- A rename amid saves of sources succeeds and gives the document its new name.
Its sources are those of the saves before and after: what is saved between the
halves is taken back. So no text is lost exactly when every part that is saved
between them is saved again after them, or left with the text it had. -/
theorem renameAmid_keeps_iff (hd : find id shelf = .ok d shelf) (now : Timestamp) (name : String)
    (before between after : List SourceSave) : ∃ d' shelf',
    store.renameAmid now id name before between after shelf = .ok () shelf'
      ∧ store.get id shelf' = .ok d' shelf' ∧ d'.name = name
      ∧ d'.sources = d.sources.written ((before ++ after).map Prod.snd)
      ∧ (d'.sources = d.sources.written ((before ++ between ++ after).map Prod.snd)
        ↔ ∀ stage text, Preview.textsOf stage (after.map Prod.snd) = [] →
          (Preview.textsOf stage (between.map Prod.snd)).getLast? = some text →
            text = (d.sources.written (before.map Prod.snd)).get stage) := by
  have hid := (find_eq_ok.mp hd).1
  obtain ⟨d₁, shelf₁, hbefore, hd₁, -, hsources₁⟩ := saveSources_ok hd before
  obtain ⟨d₂, shelf₂, hbetween, -, -, -⟩ := saveSources_ok hd₁ between
  obtain ⟨d₃, shelf₃, hsave, hd₃, hname₃, hsources₃⟩ := save_ok hid now name d₁.sources shelf₂
  obtain ⟨d₄, shelf₄, hafter, hd₄, hname₄, hsources₄⟩ := saveSources_ok hd₃ after
  have hrun : store.renameAmid now id name before between after shelf = .ok () shelf₄ := by
    rw [DocumentStore.renameAmid, Storing.bind_ok hbefore]
    have hget : store.get id shelf₁ = .ok d₁ shelf₁ := hd₁
    rw [Storing.bind_ok hget, Storing.bind_ok hbetween, Storing.bind_ok hsave]
    exact hafter
  have hfinal : d₄.sources = (d.sources.written (before.map Prod.snd)).written
      (after.map Prod.snd) := by
    rw [hsources₄, hsources₃, hsources₁]
  refine ⟨d₄, shelf₄, hrun, hd₄, hname₄.trans hname₃, ?_, ?_⟩
  · rw [hfinal, List.map_append, Sources.written_append]
  · rw [hfinal, List.map_append, List.map_append, Sources.written_append,
      Sources.written_append, Sources.written_eq_iff]

/-- A document without any text, and a shelf with it. -/
def memo : Document := ⟨"a", "A", ⟨0, 0⟩, Sources.empty⟩
def memoShelf : Shelf := [("a", memo)]

/-- A style saved between the halves and saved again after them is kept. -/
theorem memo_keeps_style : find "a" memoShelf = .ok memo memoShelf ∧ ∃ d' shelf',
    store.renameAmid ⟨1, 0⟩ "a" "B" [] [(⟨1, 0⟩, .style, "p")] [(⟨2, 0⟩, .style, "q")] memoShelf
        = .ok () shelf'
      ∧ store.get "a" shelf' = .ok d' shelf' ∧ d'.name = "B"
      ∧ d'.sources = Sources.empty.set .style "q" := by
  have hfind : find "a" memoShelf = .ok memo memoShelf := by
    rfl
  obtain ⟨d', shelf', hrun, hget, hname, hsources, -⟩ := renameAmid_keeps_iff hfind ⟨1, 0⟩ "B" []
    [(⟨1, 0⟩, .style, "p")] [(⟨2, 0⟩, .style, "q")]
  exact ⟨hfind, d', shelf', hrun, hget, hname, hsources⟩

/-- A style saved between the halves is lost: all calls succeed, the document has
its new name and no style. -/
theorem memo_loses_style : ∃ shelf' d',
    store.renameAmid ⟨2, 0⟩ "a" "B" [] [(⟨1, 0⟩, .style, "p")] [] memoShelf = .ok () shelf'
      ∧ store.get "a" shelf' = .ok d' shelf' ∧ d'.name = "B"
      ∧ d'.sources.get .style = "" ∧ (memo.sources.written [(.style, "p")]).get .style = "p" := by
  refine ⟨[("a", ⟨"a", "B", ⟨2, 0⟩, Sources.empty⟩)], ⟨"a", "B", ⟨2, 0⟩, Sources.empty⟩, ?_⟩
  exact ⟨rfl, rfl, rfl, rfl, rfl⟩

end Shelf

end MockupStudio
