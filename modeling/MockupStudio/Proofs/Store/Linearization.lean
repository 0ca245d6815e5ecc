/-
Calls to one directory at the same time are as good as calls one after the other.

* `Traffic.Since`: what holds of a later moment, kept by every step
  (`Traffic.Since.step`): what a get has read it would have got after the first
  calls in the order, those included that were over when it began;
* `Traffic.left_eq_run`: what the calls leave, as a run of the store;
* `Traffic.Linear`: the directory holds what the calls leave in the order in which
  they took the lock, each of them gives what it gives there, and a get gives a
  document as it is after the first of them. So it is whatever the interleaving
  (`Traffic.linearizable`);
* `Traffic.over_of_no_step`: calls do not block one another.
-/
import MockupStudio.Proofs.Store.Refinement
import MockupStudio.Proofs.Store.Traffic

namespace MockupStudio

/-- What a get gives of a shelf: the document of the id as it is there, or that
there is none. -/
inductive Shelf.Gives (shelf : Shelf) (id : String) : Except StoreError Document → Prop where
  | document {d : Document} : Bindings.get? id shelf = some d → Gives shelf id (.ok d)
  | notFound : Id.isValid id → Bindings.get? id shelf = none →
      Gives shelf id (.error (.notFound id))
  | invalidId : ¬Id.isValid id → Gives shelf id (.error (.invalidId id))

/-- A get from a directory gives what is on the shelf. -/
lemma Folder.Represents.gives {folder : Folder} {shelf : Shelf} (h : folder.Represents shelf)
    (id : String) : shelf.Gives id ((load id).outcome folder).1 := by
  cases habsent : (Shelf.catalogue shelf).absence? id with
  | none =>
    obtain ⟨d, hd⟩ := Shelf.exists_find habsent
    rw [Steps.outcome, h.load_ok hd]
    exact .document (Shelf.find_eq_ok.mp hd).2.1
  | some e =>
    rw [Steps.outcome, h.load_error habsent]
    obtain ⟨hid, rfl⟩ | ⟨hid, hget, rfl⟩ := Shelf.absence_cases habsent
    · exact .invalidId hid
    · exact .notFound hid hget

/-- The answer of a call, from what its steps give. -/
def Answer.ofResult {α : Type} (answer : α → Answer) : Except StoreError α → Answer
  | .ok a => answer a
  | .error e => .failed e

namespace Traffic

variable {ι κ : Type} {writes : ι → Timestamp × Write} {gets : κ → String} {folder : Folder}
  {shelf : Shelf} {s t t' : Traffic ι κ} {k : κ}

/-! ### Later moments -/

/-- A get has not read yet, or it gives what it would have given after the first
calls in the order. Those that were over at an earlier moment are among them, if
it had not read then. -/
def Told (writes : ι → Timestamp × Write) (gets : κ → String) (folder : Folder)
    (s t : Traffic ι κ) (k : κ) : Prop :=
  t.getter k = Folder.load (gets k) ∨ ∃ earlier later result, t.order = earlier ++ later
    ∧ (t.getter k).result? = some result
    ∧ ((Folder.load (gets k)).outcome (left writes earlier folder)).1 = result
    ∧ ((s.getter k).result? = none → ∀ i r, s.writer i = .written r → i ∈ earlier)

/-- What holds of a later moment. -/
structure Since (writes : ι → Timestamp × Write) (gets : κ → String) (folder : Folder)
    (s t : Traffic ι κ) : Prop where
  orderly : t.Orderly writes folder
  told : ∀ k, Told writes gets folder s t k
  order : s.order <+: t.order
  kept : ∀ i r, s.writer i = .written r → t.writer i = .written r

lemma since_start (gets : κ → String) (folder : Folder) :
    Since writes gets folder (start gets folder : Traffic ι κ) (start gets folder) where
  orderly := orderly_start gets folder
  told _ := .inl rfl
  order := List.prefix_refl _
  kept _ _ h := h

/-- Every moment is the first of those that follow. -/
lemma Since.refl (h : Since writes gets folder s t) : Since writes gets folder t t where
  orderly := h.orderly
  told k := by
    obtain hload | ⟨earlier, later, result, horder, hresult, houtcome, -⟩ := h.told k
    · exact .inl hload
    · exact .inr ⟨earlier, later, result, horder, hresult, houtcome,
        fun hnone => absurd (hnone.symm.trans hresult) (by simp)⟩
  order := List.prefix_refl _
  kept _ _ h := h

lemma Told.mono (h : Told writes gets folder s t k) (hgetter : t'.getter k = t.getter k)
    (horder : t.order <+: t'.order) : Told writes gets folder s t' k := by
  obtain ⟨more, hmore⟩ := horder
  obtain hload | ⟨earlier, later, result, horder, hresult, houtcome, hover⟩ := h
  · exact .inl (hgetter.trans hload)
  · refine .inr ⟨earlier, later ++ more, result, ?_, ?_, houtcome, hover⟩
    · rw [← hmore, horder, List.append_assoc]
    · rw [hgetter, hresult]

/-- What a get reads at a moment. -/
lemma Since.reads (h : Since writes gets folder s t) (hnone : (t.getter k).result? = none) :
    ((t.getter k).move t.folder).2 = t.folder ∧ ∃ earlier later result,
      t.order = earlier ++ later ∧ ((t.getter k).move t.folder).1.result? = some result
      ∧ ((Folder.load (gets k)).outcome (left writes earlier folder)).1 = result
      ∧ ∀ i r, s.writer i = .written r → i ∈ earlier := by
  have hload : t.getter k = Folder.load (gets k) := by
    obtain hload | ⟨_, _, result, _, hresult, _⟩ := h.told k
    · exact hload
    · exact absurd (hnone.symm.trans hresult) (by simp)
  rw [hload] at hnone ⊢
  obtain ⟨hfolder, hresult⟩ := Folder.load_move hnone t.folder
  obtain ⟨earlier, hsame, horder⟩ := h.orderly.sees
  have hover (i : ι) (r : Except StoreError Unit) (hi : s.writer i = .written r) :
      i ∈ earlier := by
    have hwritten := h.kept i r hi
    have hmem : i ∈ t.order := (h.orderly.begun i).mpr (by simp [hwritten])
    obtain horder | ⟨j, rest, horder, hwriting⟩ := horder
    · exact horder ▸ hmem
    · -- the call that is still writing is not over
      have hne : i ≠ j := fun heq => by simp [heq, hwriting] at hwritten
      rw [horder] at hmem
      simpa [hne] using hmem
  refine ⟨hfolder, earlier, ?_⟩
  obtain horder | ⟨j, rest, horder, -⟩ := horder
  · exact ⟨[], _, by rw [horder, List.append_nil], hresult, (hsame.load (gets k)).symm, hover⟩
  · exact ⟨[j], _, horder, hresult, (hsame.load (gets k)).symm, hover⟩

/-- What a get has given it would have given after the first calls in the order. -/
lemma Since.exists_earlier (h : Since writes gets folder s t)
    {result : Except StoreError Document} (hk : (t.getter k).result? = some result) :
    ∃ earlier later, t.order = earlier ++ later
      ∧ ((s.getter k).result? = none → ∀ i r, s.writer i = .written r → i ∈ earlier)
      ∧ ((Folder.load (gets k)).outcome (left writes earlier folder)).1 = result := by
  obtain hload | ⟨earlier, later, result', horder, hresult, houtcome, hover⟩ := h.told k
  · -- a text that is no id is refused without any reading
    refine ⟨t.order, [], (List.append_nil _).symm, fun _ i r hi => ?_, ?_⟩
    · have hwritten := h.kept i r hi
      exact (h.orderly.begun i).mpr (by simp [hwritten])
    · rw [Steps.outcome_of_result (hload ▸ hk)]
  · obtain rfl := Option.some.inj (hresult.symm.trans hk)
    exact ⟨earlier, later, horder, hover, houtcome⟩

/-! ### One after the other -/

/-- Calls in an order, with their readings of the clock. -/
def callsOf (writes : ι → Timestamp × Write) (order : List ι) : List (Timestamp × Call) :=
  order.map fun i => ((writes i).1, (writes i).2.call)

lemma answer_of_alone {α : Type} {now : Timestamp} {call : Call} {steps : Steps α}
    {answer : α → Answer}
    (h : Folder.store.perform now call = steps.alone >>= fun a => pure (answer a)) :
    Folder.store.answer now call folder
      = (.ofResult answer (steps.outcome folder).1, (steps.outcome folder).2) := by
  rw [Steps.outcome]
  cases halone : steps.alone folder with
  | ok a after =>
    refine DocumentStore.answer_of_ok ?_
    rw [h, Storing.bind_ok halone]
    rfl
  | error e after =>
    refine DocumentStore.answer_of_error ?_
    rw [h, Storing.bind_error halone]

lemma answer_call (now : Timestamp) (write : Write) (folder : Folder) :
    Folder.store.answer now write.call folder
      = (.ofResult (fun _ => .done) ((write.steps now).outcome folder).1,
        ((write.steps now).outcome folder).2) := by
  have hperform : Folder.store.perform now write.call
      = (write.steps now).alone >>= fun _ => pure Answer.done := by
    cases write <;> rfl
  exact answer_of_alone hperform

lemma answer_get (now : Timestamp) (id : String) (folder : Folder) :
    Folder.store.answer now (.get id) folder
      = (.ofResult .document ((Folder.load id).outcome folder).1,
        ((Folder.load id).outcome folder).2) :=
  answer_of_alone rfl

/-- What calls leave is what a run of them leaves. -/
lemma left_eq_run (writes : ι → Timestamp × Write) (order : List ι) (folder : Folder) :
    left writes order folder = (Folder.store.run (callsOf writes order) folder).2 := by
  induction order using List.reverseRecOn with
  | nil => rfl
  | append_singleton order i ih =>
    have hcalls : callsOf writes (order ++ [i])
        = callsOf writes order ++ [((writes i).1, (writes i).2.call)] := List.map_append
    rw [left_concat, ih, hcalls, DocumentStore.run_concat, answer_call]
    rfl

/-- After calls in any order, a directory holds the documents of the shelf. -/
lemma represents_left (h : folder.Represents shelf) (hsound : shelf.Sound) {order : List ι}
    (hreadable : Folder.ReadableThroughout (callsOf writes order) shelf) :
    (left writes order folder).Represents (Shelf.store.run (callsOf writes order) shelf).2 := by
  rw [left_eq_run]
  exact (Folder.run_represents h hsound _ hreadable).2

/-- What calls in any order do to the names and sources of documents. -/
lemma catalogue_left (h : folder.Represents shelf) (hsound : shelf.Sound) {order : List ι}
    (hreadable : Folder.ReadableThroughout (callsOf writes order) shelf) :
    (Folder.store.documents (left writes order folder)).catalogue
      = (order.map fun i => (writes i).2.call).foldl Catalogue.step
        (Folder.store.documents folder).catalogue := by
  rw [(represents_left h hsound hreadable).documents_eq, h.documents_eq,
    Shelf.documents_eq (hsound.run _), Shelf.documents_eq hsound]
  have hcalls : (callsOf writes order).map Prod.snd = order.map fun i => (writes i).2.call := by
    rw [callsOf, List.map_map]
    rfl
  rw [← hcalls]
  exact Shelf.catalogue_run _ shelf

/-! ### Any interleaving -/

/-- What is so at a moment `t` after a moment `s` of calls to one directory: those
that change it come one after the other, in the order in which they took the lock. -/
structure Linear (writes : ι → Timestamp × Write) (gets : κ → String) (folder : Folder)
    (s t : Traffic ι κ) : Prop where
  once : t.order.Nodup
  begun : ∀ i, i ∈ t.order ↔ t.writer i ≠ .waiting
  /-- Calls that begin later come later. -/
  order : s.order <+: t.order
  /-- Where nobody holds the lock, the files are those of the calls one after the
  other. -/
  files : t.lock = none → t.folder = (Folder.store.run (callsOf writes t.order) folder).2
  /-- Each call gives what it gives after those before it. -/
  written : ∀ i result, t.writer i = .written result → ∃ earlier later,
    t.order = earlier ++ i :: later
      ∧ (Folder.store.answer (writes i).1 (writes i).2.call
          (Folder.store.run (callsOf writes earlier) folder).2).1
        = .ofResult (fun _ => .done) result
  /-- A get gives what it gives after the first calls in the order. If it had not read
  at the earlier moment, those that were over then are among them. From a directory of
  documents it gives the document as it is after these calls, or that there is none. -/
  read : ∀ k result now, (t.getter k).result? = some result → ∃ earlier later,
    t.order = earlier ++ later
      ∧ ((s.getter k).result? = none → ∀ i r, s.writer i = .written r → i ∈ earlier)
      ∧ (Folder.store.answer now (.get (gets k))
          (Folder.store.run (callsOf writes earlier) folder).2).1 = .ofResult .document result
      ∧ ∀ shelf, folder.Represents shelf → shelf.Sound →
        Folder.ReadableThroughout (callsOf writes t.order) shelf →
          (Shelf.store.run (callsOf writes earlier) shelf).2.Gives (gets k) result
  /-- No change to a document is lost: where nobody holds the lock, the names and
  sources are those that the calls leave in the catalogue. -/
  kept : ∀ shelf, folder.Represents shelf → shelf.Sound →
    Folder.ReadableThroughout (callsOf writes t.order) shelf → t.lock = none →
      (Folder.store.documents t.folder).catalogue
        = (t.order.map fun i => (writes i).2.call).foldl Catalogue.step
          (Folder.store.documents folder).catalogue

section Interleaving

variable [DecidableEq ι] [DecidableEq κ]

lemma Since.step (h : Since writes gets folder s t) (hstep : Step writes t t') :
    Since writes gets folder s t' := by
  cases hstep with
  | acquire i hwaiting hlock =>
    refine ⟨h.orderly.acquire hwaiting hlock, fun k => ?_, ?_, fun j r hj => ?_⟩
    · exact (h.told k).mono rfl (List.prefix_append _ _)
    · exact h.order.trans (List.prefix_append _ _)
    · have hne : j ≠ i := fun heq => by simpa [heq, hwaiting] using h.kept j r hj
      rw [writer_acquire, if_neg hne, h.kept j r hj]
  | write i rest hwriting hrest =>
    refine ⟨h.orderly.write hwriting hrest, fun k => ?_, h.order, fun j r hj => ?_⟩
    · exact (h.told k).mono rfl (List.prefix_refl _)
    · have hne : j ≠ i := fun heq => by simpa [heq, hwriting] using h.kept j r hj
      rw [writer_write, if_neg hne, h.kept j r hj]
  | release i rest result hwriting hrest =>
    refine ⟨h.orderly.release hwriting hrest, fun k => ?_, h.order, fun j r hj => ?_⟩
    · exact (h.told k).mono rfl (List.prefix_refl _)
    · have hne : j ≠ i := fun heq => by simpa [heq, hwriting] using h.kept j r hj
      rw [writer_release, if_neg hne, h.kept j r hj]
  | read k hnone =>
    obtain ⟨hfolder, earlier, later, result, horder, hresult, houtcome, hover⟩ := h.reads hnone
    refine ⟨h.orderly.read hfolder, fun j => ?_, h.order, h.kept⟩
    by_cases hj : j = k
    · cases hj
      refine .inr ⟨earlier, later, result, horder, ?_, houtcome, fun _ => hover⟩
      rw [getter_read, if_pos rfl, hresult]
    · refine (h.told j).mono ?_ (List.prefix_refl _)
      rw [getter_read, if_neg hj]

lemma Since.steps (h : Since writes gets folder s t)
    (hsteps : Relation.ReflTransGen (Step writes) t t') : Since writes gets folder s t' := by
  induction hsteps with
  | refl => exact h
  | tail _ hstep ih => exact ih.step hstep

lemma since_of_steps (hs : Relation.ReflTransGen (Step writes) (start gets folder) s)
    (ht : Relation.ReflTransGen (Step writes) s t) : Since writes gets folder s t :=
  ((since_start gets folder).steps hs).refl.steps ht

/-- As long as a call is not over, some call can go on. -/
theorem over_of_no_step (hs : Relation.ReflTransGen (Step writes) (start gets folder) s)
    (hend : ∀ t, ¬Step writes s t) : s.lock = none ∧ (∀ i, ∃ result, s.writer i = .written result)
      ∧ ∀ k, ∃ result, (s.getter k).result? = some result := by
  have horderly := (since_of_steps .refl hs).orderly
  have hlock : s.lock = none := by
    cases hlock : s.lock with
    | none => rfl
    | some i =>
      obtain ⟨_, rest, _, hwriting, _⟩ := horderly.held i hlock
      cases hrest : rest.result? with
      | none => exact absurd (.write i rest hwriting hrest) (hend _)
      | some result => exact absurd (.release i rest result hwriting hrest) (hend _)
  refine ⟨hlock, fun i => ?_, fun k => ?_⟩
  · cases hwriter : s.writer i with
    | waiting => exact absurd (.acquire i hwriter hlock) (hend _)
    | writing rest => exact absurd (hlock.symm.trans (horderly.holder i rest hwriter)) (by simp)
    | written result => exact ⟨result, rfl⟩
  · cases hgetter : (s.getter k).result? with
    | none => exact absurd (.read k hgetter) (hend _)
    | some result => exact ⟨result, rfl⟩

/-- Whatever the interleaving of calls to one directory, it is as if those that
change it came one after the other, in the order in which they took the lock. -/
theorem linearizable (hs : Relation.ReflTransGen (Step writes) (start gets folder) s)
    (ht : Relation.ReflTransGen (Step writes) s t) : Linear writes gets folder s t := by
  have hsince := since_of_steps hs ht
  have horderly := hsince.orderly
  refine ⟨horderly.once, horderly.begun, hsince.order, fun hlock => ?_, fun i result hi => ?_,
    fun k result now hk => ?_, fun shelf h hsound hreadable hlock => ?_⟩
  · rw [horderly.free hlock, left_eq_run]
  · obtain ⟨earlier, later, horder, hresult⟩ := horderly.written i result hi
    refine ⟨earlier, later, horder, ?_⟩
    rw [answer_call, ← left_eq_run]
    exact congrArg (Answer.ofResult fun _ => .done) hresult
  · obtain ⟨earlier, later, horder, hover, houtcome⟩ := hsince.exists_earlier hk
    refine ⟨earlier, later, horder, hover, ?_, fun shelf h hsound hreadable => ?_⟩
    · rw [answer_get, ← left_eq_run]
      exact congrArg (Answer.ofResult .document) houtcome
    · rw [horder, callsOf, List.map_append] at hreadable
      have hgives := (represents_left h hsound hreadable.of_append).gives (gets k)
      rwa [houtcome] at hgives
  · rw [horderly.free hlock]
    exact catalogue_left h hsound hreadable

end Interleaving

/-! ### Three calls -/

/-- A memo is saved and removed. -/
def memoWrites : Bool → Timestamp × Write
  | false => (⟨0, 0⟩, .save "a" "A" Sources.empty)
  | true => (⟨0, 0⟩, .remove "a")

/-- A get comes between the writing of the draft of the memo and its renaming. -/
def memoSchedule : List (Bool ⊕ Unit) :=
  [.inl false, .inl false, .inl false, .inr (), .inl false, .inl false, .inl true, .inl true,
    .inl true]

/-- The get of the memo gives what it gives before or after the save or after the
removal. -/
theorem memo_linearizable : ∃ (t : Traffic Bool Unit) (result : Except StoreError Document),
    Relation.ReflTransGen (Step memoWrites) (start (fun _ => "a") []) t
      ∧ t.order = [false, true] ∧ (t.getter ()).result? = some result
      ∧ t.folder = (Folder.store.run (callsOf memoWrites t.order) []).2
      ∧ ∃ earlier later, t.order = earlier ++ later
        ∧ (Shelf.store.run (callsOf memoWrites earlier) []).2.Gives "a" result := by
  have hfollow : ((start (fun _ => "a") [] : Traffic Bool Unit).follow? memoWrites
      memoSchedule).any (fun t => t.order = [false, true] && t.lock.isNone
        && (t.getter ()).result?.isSome) = true := by
    decide +kernel
  obtain ⟨t, ht, hend⟩ := Option.any_eq_true _ _ |>.mp hfollow
  simp only [Bool.and_eq_true, decide_eq_true_eq, Option.isNone_iff_eq_none,
    Option.isSome_iff_exists] at hend
  obtain ⟨⟨horder, hlock⟩, result, hresult⟩ := hend
  have hsteps := steps_of_follow ht
  have hlinear := linearizable .refl hsteps
  obtain ⟨earlier, later, hsplit, -, -, hgives⟩ := hlinear.read () result ⟨0, 0⟩ hresult
  have hreadable : Folder.ReadableThroughout (callsOf memoWrites t.order) [] := by
    rw [horder]
    exact Folder.readable_of_memos (by decide +kernel)
  exact ⟨t, result, hsteps, horder, hresult, hlinear.files hlock, earlier, later, hsplit,
    hgives [] Folder.represents_empty Shelf.sound_empty hreadable⟩

end Traffic

end MockupStudio
