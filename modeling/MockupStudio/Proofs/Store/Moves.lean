/-
The steps of calls to a directory.

* `Write`: the calls that change a directory, and their steps;
* `Steps.move`: takes the next step; `Steps.outcome`: takes all of them.
  `Steps.outcome_move`: what comes after a step is what would have come of all;
* `Steps.Discreet`: only the last step changes the file of a document. So it is
  with the calls that change a directory (`Write.discreet_steps`);
* `Folder.load_move`: a get is one step, and `Folder.SameDocuments.load`: what it
  gives depends on the files of documents only.
-/
import MockupStudio.Proofs.Store.Directory

namespace MockupStudio

/-- A call that changes a directory. -/
inductive Write where
  | save (id name : String) (sources : Sources)
  | saveField (id : String) (field : Stage) (text : String)
  | remove (id : String)
  deriving Repr, DecidableEq

namespace Write

/-- The call to a store. -/
def call : Write → Call
  | save id name sources => .save id name sources
  | saveField id field text => .saveField id field text
  | remove id => .remove id

/-- The steps of the call. -/
def steps (now : Timestamp) : Write → Steps Unit
  | save id name sources => Folder.save now id name sources
  | saveField id field text => Folder.saveField now id field text
  | remove id => Folder.remove id

end Write

namespace Steps

variable {α : Type} {steps : Steps α} {folder : Folder}

/-- What a call gives that has no steps left. -/
def result? : Steps α → Option (Except StoreError α)
  | done a => some (.ok a)
  | failed e => some (.error e)
  | _ => none

/-- Takes the next step of a call; an error ends it. -/
def move (steps : Steps α) (folder : Folder) : Steps α × Folder :=
  match steps.advance folder with
  | .ok rest folder => (rest, folder)
  | .error e folder => (.failed e, folder)

/-- What a call gives and leaves that nobody comes between. -/
def outcome (steps : Steps α) (folder : Folder) : Except StoreError α × Folder :=
  match steps.alone folder with
  | .ok a folder => (.ok a, folder)
  | .error e folder => (.error e, folder)

lemma outcome_of_result {result : Except StoreError α} (h : steps.result? = some result)
    (folder : Folder) : steps.outcome folder = (result, folder) := by
  cases steps <;> cases h <;> rfl

lemma outcome_move_of_bind {β : Type} {work : Storing Folder β} {next : β → Steps α}
    (hadvance : steps.advance = work >>= fun b => pure (next b))
    (halone : steps.alone = work >>= fun b => (next b).alone) (folder : Folder) :
    (steps.move folder).1.outcome (steps.move folder).2 = steps.outcome folder := by
  rw [move, outcome, outcome, hadvance, halone]
  cases h : work folder with
  | ok b folder' =>
    rw [Storing.bind_ok h, Storing.bind_ok h]
    rfl
  | error e folder' =>
    rw [Storing.bind_error h, Storing.bind_error h]
    rfl

/-- What comes after a step is what would have come of all steps. -/
lemma outcome_move (steps : Steps α) (folder : Folder) :
    (steps.move folder).1.outcome (steps.move folder).2 = steps.outcome folder := by
  cases steps with
  | done a => rfl
  | failed e => rfl
  | read name next => exact outcome_move_of_bind rfl rfl folder
  | write name text next => exact outcome_move_of_bind rfl rfl folder
  | rename source target next => exact outcome_move_of_bind rfl rfl folder
  | delete name next => exact outcome_move_of_bind rfl rfl folder

/-- Only the last step changes the file of a document. -/
inductive Discreet : Steps α → Prop where
  | done (a : α) : Discreet (done a)
  | failed (e : StoreError) : Discreet (failed e)
  | read {name : String} {next : Option String → Steps α} :
      (∀ text, Discreet (next text)) → Discreet (read name next)
  | write {name text : String} {next : Steps α} :
      (∀ id, name ≠ documentFile id) → Discreet next → Discreet (write name text next)
  | rename {source target : String} {next : Steps α} :
      next.result? ≠ none → Discreet next → Discreet (rename source target next)
  | delete {name : String} {next : Bool → Steps α} :
      (∀ there, (next there).result? ≠ none) → (∀ there, Discreet (next there)) →
        Discreet (delete name next)

end Steps

namespace Folder

/-- Two directories have the same files of documents. -/
def SameDocuments (folder folder' : Folder) : Prop :=
  ∀ id, Bindings.get? (documentFile id) folder = Bindings.get? (documentFile id) folder'

lemma SameDocuments.trans {folder folder' folder'' : Folder} (h : folder.SameDocuments folder')
    (h' : folder'.SameDocuments folder'') : folder.SameDocuments folder'' :=
  fun id => (h id).trans (h' id)

lemma SameDocuments.insert {folder : Folder} {name : String} (h : ∀ id, name ≠ documentFile id)
    (entry : Entry) : SameDocuments (Bindings.insert name entry folder) folder := by
  intro id
  rw [Bindings.get?_insert, if_neg (h id)]

variable {folder folder' : Folder} {name text : String}

/-- What is read depends on the file of that name only, and reading changes
nothing. -/
lemma read_congr (h : Bindings.get? name folder = Bindings.get? name folder') :
    (∃ found, read name folder = .ok found folder ∧ read name folder' = .ok found folder')
      ∨ ∃ e, read name folder = .error e folder ∧ read name folder' = .error e folder' := by
  cases hget : Bindings.get? name folder with
  | none => exact .inl ⟨none, read_none hget, read_none (h ▸ hget)⟩
  | some entry =>
    have hget' := h ▸ hget
    cases entry with
    | file text => exact .inl ⟨some text, read_file hget, read_file hget'⟩
    | binary bytes =>
      refine .inr ⟨.undecodable, ?_⟩
      simp [read, hget, hget']
    | directory =>
      refine .inr ⟨.file, ?_⟩
      simp [read, hget, hget']

lemma folder_of_read {found : Option String} (h : read name folder = .ok found folder') :
    folder' = folder := by
  obtain ⟨_, hread, -⟩ | ⟨_, hread, -⟩ := read_congr (rfl : Bindings.get? name folder = _)
  · cases hread.symm.trans h
    rfl
  · cases hread.symm.trans h

lemma folder_of_write (h : write name text folder = .ok () folder') :
    folder' = Bindings.insert name (.file text) folder := by
  by_cases hget : Bindings.get? name folder = some .directory
  · simp [write, hget] at h
  · rw [write_eq hget] at h
    cases h
    rfl

end Folder

namespace Steps

variable {α : Type} {steps : Steps α} {folder : Folder}

lemma move_of_ok {β : Type} {work : Storing Folder β} {next : β → Steps α} {b : β}
    {folder' : Folder} (h : steps.advance = work >>= fun b => pure (next b))
    (hwork : work folder = .ok b folder') : steps.move folder = (next b, folder') := by
  rw [move, h, Storing.bind_ok hwork]
  rfl

lemma move_of_error {β : Type} {work : Storing Folder β} {next : β → Steps α} {e : StoreError}
    {folder' : Folder} (h : steps.advance = work >>= fun b => pure (next b))
    (hwork : work folder = .error e folder') : steps.move folder = (failed e, folder') := by
  rw [move, h, Storing.bind_error hwork]

/-- A step leaves discreet steps, and changes no file of a document unless it is
the last one. -/
lemma Discreet.move (h : steps.Discreet) (folder : Folder) : (steps.move folder).1.Discreet
    ∧ ((steps.move folder).1.result? = none → (steps.move folder).2.SameDocuments folder) := by
  cases h with
  | done a => exact ⟨.done a, fun _ _ => rfl⟩
  | failed e => exact ⟨.failed e, fun _ _ => rfl⟩
  | @read name next hnext =>
    cases hread : Folder.read name folder with
    | ok text folder' =>
      rw [move_of_ok rfl hread, Folder.folder_of_read hread]
      exact ⟨hnext text, fun _ _ => rfl⟩
    | error e folder' =>
      rw [move_of_error rfl hread]
      exact ⟨.failed e, nofun⟩
  | @write name text next hname hnext =>
    cases hwrite : Folder.write name text folder with
    | ok done folder' =>
      rw [move_of_ok rfl hwrite, Folder.folder_of_write hwrite]
      exact ⟨hnext, fun _ => .insert hname _⟩
    | error e folder' =>
      rw [move_of_error rfl hwrite]
      exact ⟨.failed e, nofun⟩
  | @rename source target next hlast hnext =>
    cases hrename : Folder.rename source target folder with
    | ok done folder' =>
      rw [move_of_ok rfl hrename]
      exact ⟨hnext, fun hnone => absurd hnone hlast⟩
    | error e folder' =>
      rw [move_of_error rfl hrename]
      exact ⟨.failed e, nofun⟩
  | @delete name next hlast hnext =>
    cases hdelete : Folder.delete name folder with
    | ok there folder' =>
      rw [move_of_ok rfl hdelete]
      exact ⟨hnext there, fun hnone => absurd hnone (hlast there)⟩
    | error e folder' =>
      rw [move_of_error rfl hdelete]
      exact ⟨.failed e, nofun⟩

lemma discreet_forId {id : String} (h : steps.Discreet) : (forId id steps).Discreet := by
  rw [forId]
  split
  · exact h
  · exact .failed _

end Steps

lemma Folder.discreet_put (d : Document) : (Folder.put d).Discreet := by
  refine Steps.discreet_forId (.write (draftFile_ne_documentFile d.id) (.rename ?_ (.done ())))
  exact Option.some_ne_none _

/-- Calls that change a directory are discreet. -/
lemma Write.discreet_steps (now : Timestamp) (write : Write) : (write.steps now).Discreet := by
  cases write with
  | save id name sources =>
    refine Steps.discreet_forId (.read fun text => ?_)
    cases text with
    | none => exact Folder.discreet_put _
    | some text =>
      dsimp only
      split
      · exact Folder.discreet_put _
      · exact .failed _
  | saveField id field text =>
    rw [steps, Folder.saveField, Folder.load, Steps.forId]
    split
    · refine .read fun found => ?_
      cases found with
      | none => exact .failed _
      | some text =>
        dsimp only
        split
        · exact Folder.discreet_put _
        · exact .failed _
    · exact .failed _
  | remove id =>
    refine Steps.discreet_forId (.delete ?_ ?_)
    · rintro (_ | _) <;> exact Option.some_ne_none _
    · rintro (_ | _)
      · exact .failed _
      · exact .done ()

namespace Folder

variable {folder folder' : Folder} {id : String}

/-- A get of an id is one reading. -/
lemma exists_load_eq_read (hid : Id.isValid id) : ∃ next, load id = .read (documentFile id) next
    ∧ ∀ found, ∃ result, (next found).result? = some result := by
  rw [load, Steps.forId, if_pos hid]
  refine ⟨_, rfl, fun found => ?_⟩
  cases found with
  | none => exact ⟨_, rfl⟩
  | some text => cases hdecode : decode? id text <;> exact ⟨_, by simp only [hdecode]; rfl⟩

/-- What a get gives depends on the files of documents only. -/
lemma SameDocuments.load (h : folder.SameDocuments folder') (id : String) :
    ((load id).outcome folder).1 = ((load id).outcome folder').1 := by
  by_cases hid : Id.isValid id
  · obtain ⟨next, hload, hnext⟩ := exists_load_eq_read hid
    rw [hload, ← Steps.outcome_move, ← Steps.outcome_move _ folder']
    obtain ⟨found, hread, hread'⟩ | ⟨e, hread, hread'⟩ := read_congr (h id)
    · obtain ⟨result, hresult⟩ := hnext found
      rw [Steps.move_of_ok rfl hread, Steps.move_of_ok rfl hread',
        Steps.outcome_of_result hresult, Steps.outcome_of_result hresult]
    · rw [Steps.move_of_error rfl hread, Steps.move_of_error rfl hread']
      rfl
  · rw [Folder.load, Steps.forId, if_neg hid]
    rfl

/-- A get takes one step, which changes nothing. -/
lemma load_move (h : (load id).result? = none) (folder : Folder) :
    ((load id).move folder).2 = folder
      ∧ ((load id).move folder).1.result? = some ((load id).outcome folder).1 := by
  by_cases hid : Id.isValid id
  · obtain ⟨next, hload, hnext⟩ := exists_load_eq_read hid
    rw [hload, ← Steps.outcome_move]
    obtain ⟨found, hread, -⟩ | ⟨e, hread, -⟩ :=
      read_congr (rfl : Bindings.get? (documentFile id) folder = _)
    · obtain ⟨result, hresult⟩ := hnext found
      rw [Steps.move_of_ok rfl hread, Steps.outcome_of_result hresult]
      exact ⟨rfl, hresult⟩
    · rw [Steps.move_of_error rfl hread]
      exact ⟨rfl, rfl⟩
  · rw [load, Steps.forId, if_neg hid] at h
    cases h

end Folder

end MockupStudio
