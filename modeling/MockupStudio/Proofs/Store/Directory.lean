/-
A directory of documents as a shelf.

* `Document.Readable`: what is read from the text of a document is the document;
* `Folder.Represents`: a directory holds the documents of a shelf, each in its
  file;
* `Folder.Represents.load_ok`, `Folder.Represents.save_ok` and so on: the steps of
  an operation, one after the other;
* `Folder.Represents.summaries_eq`: the listings are the same;
* `Folder.Represents.agrees`: every call answers the same and leaves a directory
  that holds the documents that are then on the shelf.
-/
import MockupStudio.Proofs.Store.FileNames
import MockupStudio.Proofs.Store.Shelf

namespace MockupStudio

/-- Whether what is read from the text of a document is the document. -/
def Document.Readable (d : Document) : Prop :=
  Folder.decode? d.id (Folder.encode d) = some d

/-- Whether all documents of a shelf can be read back from their texts. -/
def Shelf.Readable (shelf : Shelf) : Prop :=
  ∀ id d, Bindings.get? id shelf = some d → d.Readable

namespace Folder

variable {folder : Folder} {name text source target id : String}

/-! ### Single steps -/

lemma read_file (h : Bindings.get? name folder = some (.file text)) :
    read name folder = .ok (some text) folder := by
  simp [read, h]

lemma read_none (h : Bindings.get? name folder = none) : read name folder = .ok none folder := by
  simp [read, h]

lemma write_eq (h : Bindings.get? name folder ≠ some .directory) :
    write name text folder = .ok () (Bindings.insert name (.file text) folder) := by
  cases hentry : Bindings.get? name folder with
  | none => simp [write, hentry]
  | some entry =>
    cases entry with
    | directory => exact absurd hentry h
    | _ => simp [write, hentry]

lemma rename_eq {entry : Entry} (h : Bindings.get? source folder = some entry)
    (htarget : Bindings.get? target folder ≠ some .directory) : rename source target folder
      = .ok () (Bindings.insert target entry (Bindings.erase source folder)) := by
  cases hentry : Bindings.get? target folder with
  | none => simp [rename, h, hentry]
  | some old =>
    cases old with
    | directory => exact absurd hentry htarget
    | _ => simp [rename, h, hentry]

lemma delete_file (h : Bindings.get? name folder = some (.file text)) :
    delete name folder = .ok true (Bindings.erase name folder) := by
  simp [delete, h]

lemma delete_none (h : Bindings.get? name folder = none) :
    delete name folder = .ok false folder := by
  simp [delete, h]

end Folder

/-! ### Steps one after the other -/

namespace Steps

variable {α β : Type} {folder folder' : Folder} {id : String}

lemma alone_andThen (steps : Steps α) (next : α → Steps β) :
    (steps.andThen next).alone = steps.alone >>= fun a => (next a).alone := by
  induction steps with
  | done a => rfl
  | failed e => rfl
  | read name after ih => simp only [andThen, alone, ih, bind_assoc]
  | write name text after ih => simp only [andThen, alone, ih, bind_assoc]
  | rename source target after ih => simp only [andThen, alone, ih, bind_assoc]
  | delete name after ih => simp only [andThen, alone, ih, bind_assoc]

lemma alone_forId (hid : Id.isValid id) (steps : Steps α) :
    (forId id steps).alone = steps.alone := by
  rw [forId, if_pos hid]

lemma alone_forId_invalid (hid : ¬Id.isValid id) (steps : Steps α) :
    (forId id steps).alone folder = .error (.invalidId id) folder := by
  rw [forId, if_neg hid]
  rfl

end Steps

/-! ### Directories of documents -/

namespace Folder

variable {folder : Folder} {shelf : Shelf} {id : String} {d : Document} {now : Timestamp}

/-- What a directory holds when a document was written: the file of the document
has its text, and the file in which it was prepared is gone. -/
def kept (d : Document) (folder : Folder) : Folder :=
  Bindings.insert (documentFile d.id) (.file (encode d)) (Bindings.erase (draftFile d.id) folder)

lemma put_alone (hid : Id.isValid d.id)
    (hdraft : Bindings.get? (draftFile d.id) folder ≠ some .directory)
    (hfile : Bindings.get? (documentFile d.id) folder ≠ some .directory) :
    (put d).alone folder = .ok () (kept d folder) := by
  have hne := draftFile_ne_documentFile d.id d.id
  have hwritten : Bindings.get? (draftFile d.id)
      (Bindings.insert (draftFile d.id) (.file (encode d)) folder) = some (.file (encode d)) := by
    rw [Bindings.get?_insert, if_pos rfl]
  have hother : Bindings.get? (documentFile d.id)
      (Bindings.insert (draftFile d.id) (.file (encode d)) folder) ≠ some .directory := by
    rw [Bindings.get?_insert, if_neg hne]
    exact hfile
  rw [put, Steps.alone_forId hid, Steps.alone, Storing.bind_ok (write_eq hdraft), Steps.alone,
    Storing.bind_ok (rename_eq hwritten hother), Bindings.erase_insert]
  rfl

/-- A directory holds the documents of a shelf, each in its file, and can hold
more than that. -/
structure Represents (folder : Folder) (shelf : Shelf) : Prop where
  nodup : (Bindings.keys folder).Nodup
  missing : ∀ id, Id.isValid id → Bindings.get? id shelf = none →
    Bindings.get? (documentFile id) folder = none
  found : ∀ id d, Id.isValid id → Bindings.get? id shelf = some d →
    ∃ text, Bindings.get? (documentFile id) folder = some (.file text) ∧ decode? id text = some d
  draft : ∀ id, Id.isValid id → Bindings.get? (draftFile id) folder ≠ some .directory

lemma represents_empty : Represents [] [] where
  nodup := List.nodup_nil
  missing _ _ _ := rfl
  found _ _ _ h := absurd h (by simp)
  draft _ _ := by simp

/-- What a call answers on a directory and on a shelf is the same, what it leaves
is the same, and a call that fails leaves the directory as it was. -/
structure Agrees (before : Folder) (result : Answer × Folder) (result' : Answer × Shelf) :
    Prop where
  answer : result.1 = result'.1
  represents : result.2.Represents result'.2
  unchanged : ∀ e, result.1 = .failed e → result.2 = before

namespace Represents

variable {e : StoreError}

lemma file_ne_directory (h : folder.Represents shelf) (hid : Id.isValid id) :
    Bindings.get? (documentFile id) folder ≠ some .directory := by
  cases hget : Bindings.get? id shelf with
  | none => simp [h.missing id hid hget]
  | some d =>
    obtain ⟨text, hfile, -⟩ := h.found id d hid hget
    simp [hfile]

/-- Writing a document puts it on the shelf. -/
lemma kept (h : folder.Represents shelf) (hd : d.id = id) (hreadable : d.Readable) :
    (kept d folder).Represents (Bindings.insert id d shelf) := by
  subst hd
  have hother {k : String} (hk : d.id ≠ k) : Bindings.get? (documentFile k) (Folder.kept d folder)
      = Bindings.get? (documentFile k) folder := by
    have hname : documentFile d.id ≠ documentFile k := fun hc => hk (documentFile_injective hc)
    have hdraft : documentFile k ≠ draftFile d.id :=
      fun hc => draftFile_ne_documentFile d.id k hc.symm
    rw [Folder.kept, Bindings.get?_insert, if_neg hname, Bindings.get?_erase, if_neg hdraft]
  refine ⟨Bindings.nodup_keys_insert (Bindings.nodup_keys_erase h.nodup), ?_, ?_, ?_⟩
  · intro k hvalid hnone
    rw [Bindings.get?_insert] at hnone
    split at hnone
    · cases hnone
    · next hk => rw [hother hk, h.missing k hvalid hnone]
  · intro k d' hvalid hsome
    rw [Bindings.get?_insert] at hsome
    split at hsome
    · next hk =>
      cases hk
      cases hsome
      refine ⟨encode d, ?_, hreadable⟩
      rw [Folder.kept, Bindings.get?_insert, if_pos rfl]
    · next hk =>
      rw [hother hk]
      exact h.found k d' hvalid hsome
  · intro k hvalid
    have hname : documentFile d.id ≠ draftFile k :=
      fun hc => draftFile_ne_documentFile k d.id hc.symm
    rw [Folder.kept, Bindings.get?_insert, if_neg hname, Bindings.get?_erase]
    split
    · simp
    · exact h.draft k hvalid

/-- Deleting the file of a document takes it off the shelf. -/
lemma erase (h : folder.Represents shelf) (id : String) :
    Represents (Bindings.erase (documentFile id) folder) (Bindings.erase id shelf) := by
  refine ⟨Bindings.nodup_keys_erase h.nodup, ?_, ?_, ?_⟩
  · intro k hvalid hnone
    rw [Bindings.get?_erase]
    split
    · rfl
    · next hname =>
      have hk : k ≠ id := fun hc => hname (congrArg documentFile hc)
      rw [Bindings.get?_erase, if_neg hk] at hnone
      exact h.missing k hvalid hnone
  · intro k d hvalid hsome
    rw [Bindings.get?_erase] at hsome
    split at hsome
    · cases hsome
    · next hk =>
      have hname : documentFile k ≠ documentFile id := fun hc => hk (documentFile_injective hc)
      rw [Bindings.get?_erase, if_neg hname]
      exact h.found k d hvalid hsome
  · intro k hvalid
    rw [Bindings.get?_erase, if_neg (draftFile_ne_documentFile k id)]
    exact h.draft k hvalid

/-! ### Operations -/

lemma load_ok (h : folder.Represents shelf) (hd : Shelf.find id shelf = .ok d shelf) :
    (load id).alone folder = .ok d folder := by
  obtain ⟨hid, hget, -⟩ := Shelf.find_eq_ok.mp hd
  obtain ⟨text, hfile, hdecode⟩ := h.found id d hid hget
  rw [load, Steps.alone_forId hid, Steps.alone, Storing.bind_ok (read_file hfile)]
  simp only [hdecode]
  rfl

lemma load_error (h : folder.Represents shelf)
    (habsent : (Shelf.catalogue shelf).absence? id = some e) :
    (load id).alone folder = .error e folder := by
  obtain ⟨hid, rfl⟩ | ⟨hid, hget, rfl⟩ := Shelf.absence_cases habsent
  · exact Steps.alone_forId_invalid hid _
  · rw [load, Steps.alone_forId hid, Steps.alone,
      Storing.bind_ok (read_none (h.missing id hid hget))]
    rfl

lemma put_alone (h : folder.Represents shelf) (hid : Id.isValid id) (hd : d.id = id) :
    (put d).alone folder = .ok () (Folder.kept d folder) := by
  subst hd
  exact Folder.put_alone hid (h.draft _ hid) (h.file_ne_directory hid)

lemma save_ok (h : folder.Represents shelf) (hsound : shelf.Sound) (hid : Id.isValid id)
    (name : String) (sources : Sources) : (save now id name sources).alone folder = .ok ()
      (Folder.kept (Document.savedOver now id name sources (Bindings.get? id shelf)) folder) := by
  rw [save, Steps.alone_forId hid, Steps.alone]
  cases hget : Bindings.get? id shelf with
  | none =>
    rw [Storing.bind_ok (read_none (h.missing id hid hget))]
    exact h.put_alone hid rfl
  | some d =>
    obtain ⟨text, hfile, hdecode⟩ := h.found id d hid hget
    rw [Storing.bind_ok (read_file hfile)]
    simp only [hdecode]
    exact h.put_alone hid (hsound.keyed id d hget).2

lemma saveField_ok (h : folder.Represents shelf) (hsound : shelf.Sound)
    (hd : Shelf.find id shelf = .ok d shelf) (field : Stage) (text : String) :
    (saveField now id field text).alone folder
      = .ok () (Folder.kept (d.updateField now field text) folder) := by
  obtain ⟨hid, hget, -⟩ := Shelf.find_eq_ok.mp hd
  rw [saveField, Steps.alone_andThen, Storing.bind_ok (h.load_ok hd)]
  exact h.put_alone hid (hsound.keyed id d hget).2

lemma saveField_error (h : folder.Represents shelf)
    (habsent : (Shelf.catalogue shelf).absence? id = some e) (field : Stage) (text : String) :
    (saveField now id field text).alone folder = .error e folder := by
  rw [saveField, Steps.alone_andThen, Storing.bind_error (h.load_error habsent)]

lemma remove_ok (h : folder.Represents shelf) (hd : Shelf.find id shelf = .ok d shelf) :
    (remove id).alone folder = .ok () (Bindings.erase (documentFile id) folder) := by
  obtain ⟨hid, hget, -⟩ := Shelf.find_eq_ok.mp hd
  obtain ⟨text, hfile, -⟩ := h.found id d hid hget
  rw [remove, Steps.alone_forId hid, Steps.alone, Storing.bind_ok (delete_file hfile)]
  rfl

lemma remove_error (h : folder.Represents shelf)
    (habsent : (Shelf.catalogue shelf).absence? id = some e) :
    (remove id).alone folder = .error e folder := by
  obtain ⟨hid, rfl⟩ | ⟨hid, hget, rfl⟩ := Shelf.absence_cases habsent
  · exact Steps.alone_forId_invalid hid _
  · rw [remove, Steps.alone_forId hid, Steps.alone,
      Storing.bind_ok (delete_none (h.missing id hid hget))]
    rfl

end Represents

/-! ### Listings -/

/-- An entry holds a document if it is a file that is named as the file of the
document and has a text that is read as it. -/
lemma documentOf_eq_some {entry : String × Entry} : documentOf? entry = some d
    ↔ ∃ id text, entry = (documentFile id, .file text) ∧ Id.isValid id
      ∧ decode? id text = some d := by
  obtain ⟨name, content⟩ := entry
  constructor
  · intro h
    rw [documentOf?] at h
    obtain ⟨id, hstem, h⟩ := Option.bind_eq_some_iff.mp h
    obtain ⟨hname, -⟩ := FileName.stem_eq_some_iff.mp hstem
    split at h
    · next hid =>
      split at h
      · next text hcontent => exact ⟨id, text, Prod.ext hname hcontent, hid, h⟩
      · cases h
    · cases h
  · rintro ⟨id, text, heq, hid, hdecode⟩
    cases heq
    have hne : id ≠ "" := by
      rintro rfl
      simp [Id.isValid] at hid
    have hstem := FileName.stem_eq_some_iff.mpr ⟨rfl, hne⟩
    rw [documentOf?, hstem]
    simpa [hid] using hdecode

lemma id_of_decode {text : String} (h : decode? id text = some d) : d.id = id := by
  rw [decode?] at h
  obtain ⟨d', -, rfl⟩ := Option.map_eq_some_iff.mp h
  rfl

namespace Represents

variable {e : StoreError}

lemma mem_documents (h : folder.Represents shelf) (hsound : shelf.Sound) :
    d ∈ folder.filterMap documentOf? ↔ d ∈ shelf.map (·.2) := by
  constructor
  · intro hd
    obtain ⟨entry, hentry, hd⟩ := List.mem_filterMap.mp hd
    obtain ⟨id, text, rfl, hid, hdecode⟩ := documentOf_eq_some.mp hd
    have hfile := (Bindings.mem_iff_get?_eq h.nodup).mp hentry
    cases hget : Bindings.get? id shelf with
    | none => exact absurd hfile (by simp [h.missing id hid hget])
    | some d' =>
      obtain ⟨text', hfile', hdecode'⟩ := h.found id d' hid hget
      obtain rfl := Entry.file.inj (Option.some.inj (hfile.symm.trans hfile'))
      obtain rfl := Option.some.inj (hdecode.symm.trans hdecode')
      exact List.mem_map_of_mem (Bindings.mem_of_get?_eq hget)
  · intro hd
    obtain ⟨⟨id, d⟩, hmem, rfl⟩ := List.mem_map.mp hd
    have hget := (Bindings.mem_iff_get?_eq hsound.nodup).mp hmem
    obtain ⟨hid, -⟩ := hsound.keyed id d hget
    obtain ⟨text, hfile, hdecode⟩ := h.found id d hid hget
    exact List.mem_filterMap.mpr ⟨_, Bindings.mem_of_get?_eq hfile,
      documentOf_eq_some.mpr ⟨id, text, rfl, hid, hdecode⟩⟩

/-- Entries of different names do not hold the same document. -/
lemma nodup_documents (h : folder.Represents shelf) : (folder.filterMap documentOf?).Nodup := by
  have hnames : folder.Pairwise fun a b => a.1 ≠ b.1 := List.pairwise_map.mp h.nodup
  refine List.pairwise_filterMap.mpr (hnames.imp ?_)
  rintro a b hne d hd _ hd' rfl
  obtain ⟨id, text, rfl, -, hdecode⟩ := documentOf_eq_some.mp hd
  obtain ⟨id', text', rfl, -, hdecode'⟩ := documentOf_eq_some.mp hd'
  have hid : id = id' := (id_of_decode hdecode).symm.trans (id_of_decode hdecode')
  exact hne (congrArg documentFile hid)

lemma documents_perm (h : folder.Represents shelf) (hsound : shelf.Sound) :
    (folder.filterMap documentOf?).Perm (shelf.map (·.2)) := by
  have hnodup : (shelf.map (·.2)).Nodup := by
    have hids := Shelf.nodup_ids hsound
    rw [List.map_map] at hids
    refine List.Nodup.of_map Document.id ?_
    rwa [List.map_map]
  exact (List.perm_ext_iff_of_nodup h.nodup_documents hnodup).mpr fun d => h.mem_documents hsound

/-- A directory lists what the shelf lists. -/
theorem summaries_eq (h : folder.Represents shelf) (hsound : shelf.Sound) :
    summaries folder = Shelf.summaries shelf := by
  have hperm := (h.documents_perm hsound).map Document.summary
  rw [List.map_map] at hperm
  exact (Summary.newestFirst_congr (Shelf.nodup_ids hsound) hperm.symm).symm

/-! ### Answers -/

lemma answer_refused (h : folder.Represents shelf) {call : Call}
    (hrefused : call.refusal? (Shelf.catalogue shelf) = some e) :
    store.answer now call folder = (.failed e, folder) := by
  refine DocumentStore.answer_of_error ?_
  cases call with
  | list => cases hrefused
  | get id => exact Storing.bind_error (h.load_error hrefused)
  | save id name sources =>
    rw [Call.refusal?] at hrefused
    split at hrefused
    · cases hrefused
    · next hid =>
      cases hrefused
      exact Storing.bind_error (Steps.alone_forId_invalid hid _)
  | saveField id field text => exact Storing.bind_error (h.saveField_error hrefused field text)
  | remove id => exact Storing.bind_error (h.remove_error hrefused)
  | rename id name => exact Storing.bind_error (Storing.bind_error (h.load_error hrefused))

/-- A save answers the same and leaves a directory that holds what is then on the
shelf. -/
lemma agrees_save (h : folder.Represents shelf) (hsound : shelf.Sound) (now : Timestamp)
    {name : String} {sources : Sources} (hid : Id.isValid id)
    (hreadable : (Document.savedOver now id name sources (Bindings.get? id shelf)).Readable) :
    Agrees folder (store.answer now (.save id name sources) folder)
      (Shelf.store.answer now (.save id name sources) shelf) := by
  have hsave : store.answer now (.save id name sources) folder = (.done,
      Folder.kept (Document.savedOver now id name sources (Bindings.get? id shelf)) folder) :=
    DocumentStore.answer_of_ok (Storing.bind_ok (h.save_ok hsound hid name sources))
  rw [hsave, Shelf.answer_save hid]
  exact ⟨rfl, h.kept (hsound.savedOver_id now id name sources) hreadable, nofun⟩

lemma readable_of_insert (h : Shelf.Readable (Bindings.insert id d shelf)) : d.Readable :=
  h id d (by rw [Bindings.get?_insert, if_pos rfl])

/-- A call on a directory answers what it answers on the shelf, and leaves a
directory that holds the documents that are then on the shelf; a call that fails
leaves the directory as it is. -/
theorem agrees (h : folder.Represents shelf) (hsound : shelf.Sound) (now : Timestamp)
    (call : Call) (hreadable : (Shelf.store.answer now call shelf).2.Readable) :
    Agrees folder (store.answer now call folder) (Shelf.store.answer now call shelf) := by
  cases hrefused : call.refusal? (Shelf.catalogue shelf) with
  | some e =>
    rw [h.answer_refused hrefused, Shelf.answer_refused hrefused]
    exact ⟨rfl, h, fun _ _ => rfl⟩
  | none =>
    cases call with
    | list =>
      have hlist : store.answer now .list folder = (.listing (summaries folder), folder) := rfl
      rw [hlist, Shelf.answer_list, h.summaries_eq hsound]
      exact ⟨rfl, h, nofun⟩
    | get id =>
      obtain ⟨d, hd⟩ := Shelf.exists_find hrefused
      have hget : store.answer now (.get id) folder = (.document d, folder) :=
        DocumentStore.answer_of_ok (Storing.bind_ok (h.load_ok hd))
      rw [hget, Shelf.answer_get hd]
      exact ⟨rfl, h, nofun⟩
    | save id name sources =>
      have hid := Call.isValid_of_save hrefused
      rw [Shelf.answer_save hid] at hreadable
      exact h.agrees_save hsound now hid (readable_of_insert hreadable)
    | saveField id field text =>
      obtain ⟨d, hd⟩ := Shelf.exists_find hrefused
      have hid : (d.updateField now field text).id = id :=
        (hsound.keyed id d (Shelf.find_eq_ok.mp hd).2.1).2
      have hsave : store.answer now (.saveField id field text) folder
          = (.done, Folder.kept (d.updateField now field text) folder) :=
        DocumentStore.answer_of_ok (Storing.bind_ok (h.saveField_ok hsound hd field text))
      rw [Shelf.answer_saveField hd] at hreadable
      rw [hsave, Shelf.answer_saveField hd]
      exact ⟨rfl, h.kept hid (readable_of_insert hreadable), nofun⟩
    | remove id =>
      obtain ⟨d, hd⟩ := Shelf.exists_find hrefused
      have hremove : store.answer now (.remove id) folder
          = (.done, Bindings.erase (documentFile id) folder) :=
        DocumentStore.answer_of_ok (Storing.bind_ok (h.remove_ok hd))
      rw [hremove, Shelf.answer_remove hd]
      exact ⟨rfl, h.erase id, nofun⟩
    | rename id name =>
      obtain ⟨d, hd⟩ := Shelf.exists_find hrefused
      have hid := (Shelf.find_eq_ok.mp hd).1
      have hload : store.get id folder = .ok d folder := h.load_ok hd
      rw [DocumentStore.answer_rename hd, Shelf.answer_save hid] at hreadable
      rw [DocumentStore.answer_rename hload, DocumentStore.answer_rename hd]
      exact h.agrees_save hsound now hid (readable_of_insert hreadable)

end Represents

end Folder

end MockupStudio
