/-
Calls to one directory at the same time.

* `Traffic`: how far each call is, what the directory holds, and in which order
  the lock was taken; `Traffic.Step`: one call goes one step on. A call that
  changes the directory holds the lock while its steps are taken, a get holds
  none;
* `Traffic.follow?`: the steps of the calls in a given order;
* `Traffic.Orderly`: what holds at every moment, kept by every step
  (`Traffic.Orderly.acquire`, `write`, `release` and `read`);
* `Traffic.Orderly.sees`: at every moment the files of documents are those after
  the first calls in the order, all of them or all but the last.
-/
import MockupStudio.Proofs.Store.Moves

namespace MockupStudio

/-- How far a call is that changes the directory. -/
inductive Writer where
  | waiting
  /-- The call holds the lock, and has steps left to take. -/
  | writing (rest : Steps Unit)
  | written (result : Except StoreError Unit)

/-- The state of calls to one directory at the same time. -/
structure Traffic (ι κ : Type) where
  folder : Folder
  /-- The call that holds the lock. -/
  lock : Option ι
  writer : ι → Writer
  /-- The steps that are left of each get. -/
  getter : κ → Steps Document
  /-- The calls that have taken the lock, in the order in which they did. -/
  order : List ι

namespace Traffic

variable {ι κ : Type} {writes : ι → Timestamp × Write} {gets : κ → String} {folder : Folder}
  {s s' : Traffic ι κ} {i : ι}

/-- Before any call has begun. -/
def start (gets : κ → String) (folder : Folder) : Traffic ι κ where
  folder
  lock := none
  writer := fun _ => .waiting
  getter := fun k => Folder.load (gets k)
  order := []

/-- The steps of a call. -/
def stepsOf (writes : ι → Timestamp × Write) (i : ι) : Steps Unit :=
  (writes i).2.steps (writes i).1

/-- What calls leave that are carried out one after the other. -/
def left (writes : ι → Timestamp × Write) (order : List ι) (folder : Folder) : Folder :=
  order.foldl (fun folder i => ((stepsOf writes i).outcome folder).2) folder

lemma left_concat (order : List ι) (i : ι) (folder : Folder) :
    left writes (order ++ [i]) folder
      = ((stepsOf writes i).outcome (left writes order folder)).2 := by
  rw [left, List.foldl_append]
  rfl

/-- What holds at every moment. -/
structure Orderly (writes : ι → Timestamp × Write) (folder : Folder) (s : Traffic ι κ) :
    Prop where
  /-- Only the call that holds the lock takes steps. -/
  holder : ∀ i rest, s.writer i = .writing rest → s.lock = some i
  free : s.lock = none → s.folder = left writes s.order folder
  /-- The call that holds the lock is the last in the order. Its remaining steps do
  what all of them would have done after the calls before it, and until they are
  taken the files of documents are as it found them. -/
  held : ∀ i, s.lock = some i → ∃ earlier rest, s.order = earlier ++ [i]
    ∧ s.writer i = .writing rest ∧ rest.Discreet
    ∧ rest.outcome s.folder = (stepsOf writes i).outcome (left writes earlier folder)
    ∧ (rest.result? = none → s.folder.SameDocuments (left writes earlier folder))
  once : s.order.Nodup
  begun : ∀ i, i ∈ s.order ↔ s.writer i ≠ .waiting
  written : ∀ i result, s.writer i = .written result → ∃ earlier later,
    s.order = earlier ++ i :: later
      ∧ ((stepsOf writes i).outcome (left writes earlier folder)).1 = result

lemma orderly_start (gets : κ → String) (folder : Folder) :
    (start gets folder : Traffic ι κ).Orderly writes folder where
  holder _ _ h := nomatch h
  free _ := rfl
  held _ h := nomatch h
  once := List.nodup_nil
  begun i := by simp [start]
  written _ _ h := nomatch h

/-- At every moment the files of documents are those after the first calls in the
order: all of them, or all but the one that is still writing. -/
lemma Orderly.sees (h : s.Orderly writes folder) :
    ∃ earlier, s.folder.SameDocuments (left writes earlier folder)
      ∧ (s.order = earlier ∨ ∃ i rest, s.order = earlier ++ [i] ∧ s.writer i = .writing rest) := by
  cases hlock : s.lock with
  | none =>
    refine ⟨s.order, ?_, .inl rfl⟩
    rw [h.free hlock]
    exact fun _ => rfl
  | some i =>
    obtain ⟨earlier, rest, horder, hwriting, -, houtcome, hsame⟩ := h.held i hlock
    cases hrest : rest.result? with
    | none => exact ⟨earlier, hsame hrest, .inr ⟨i, rest, horder, hwriting⟩⟩
    | some result =>
      refine ⟨s.order, ?_, .inl rfl⟩
      rw [horder, left_concat, ← houtcome, Steps.outcome_of_result hrest]
      exact fun _ => rfl

/-! ### Steps -/

section Steps

variable [DecidableEq ι]

/-- A call takes the lock. -/
def acquire (writes : ι → Timestamp × Write) (s : Traffic ι κ) (i : ι) : Traffic ι κ :=
  { s with
    lock := some i
    writer := Function.update s.writer i (.writing (stepsOf writes i))
    order := s.order ++ [i] }

/-- A call takes a step on the directory. -/
def write (s : Traffic ι κ) (i : ι) (rest : Steps Unit) : Traffic ι κ :=
  { s with
    folder := (rest.move s.folder).2
    writer := Function.update s.writer i (.writing (rest.move s.folder).1) }

/-- A call gives the lock back. -/
def release (s : Traffic ι κ) (i : ι) (result : Except StoreError Unit) : Traffic ι κ :=
  { s with
    lock := none
    writer := Function.update s.writer i (.written result) }

/-- A get takes its step. -/
def read [DecidableEq κ] (s : Traffic ι κ) (k : κ) : Traffic ι κ :=
  { s with
    folder := ((s.getter k).move s.folder).2
    getter := Function.update s.getter k ((s.getter k).move s.folder).1 }

/-- One call goes one step on. Only taking the lock depends on other calls. -/
inductive Step [DecidableEq κ] (writes : ι → Timestamp × Write) :
    Traffic ι κ → Traffic ι κ → Prop where
  | acquire {s : Traffic ι κ} (i : ι) : s.writer i = .waiting → s.lock = none →
      Step writes s (s.acquire writes i)
  | write {s : Traffic ι κ} (i : ι) (rest : Steps Unit) : s.writer i = .writing rest →
      rest.result? = none → Step writes s (s.write i rest)
  | release {s : Traffic ι κ} (i : ι) (rest : Steps Unit) (result : Except StoreError Unit) :
      s.writer i = .writing rest → rest.result? = some result → Step writes s (s.release i result)
  | read {s : Traffic ι κ} (k : κ) : (s.getter k).result? = none → Step writes s (s.read k)

/-- The next step of one of the calls, if it can take one. -/
def next? [DecidableEq κ] (writes : ι → Timestamp × Write) (s : Traffic ι κ) :
    ι ⊕ κ → Option (Traffic ι κ)
  | .inl i =>
    match s.writer i with
    | .waiting => if s.lock.isNone then some (s.acquire writes i) else none
    | .writing rest =>
      match rest.result? with
      | none => some (s.write i rest)
      | some result => some (s.release i result)
    | .written _ => none
  | .inr k => if (s.getter k).result?.isNone then some (s.read k) else none

/-- The steps of the calls in a given order. -/
def follow? [DecidableEq κ] (writes : ι → Timestamp × Write) (s : Traffic ι κ)
    (schedule : List (ι ⊕ κ)) : Option (Traffic ι κ) :=
  schedule.foldlM (next? writes) s

lemma step_of_next [DecidableEq κ] {who : ι ⊕ κ} (h : s.next? writes who = some s') :
    Step writes s s' := by
  cases who with
  | inl i =>
    rw [next?] at h
    split at h
    · next hwaiting =>
      split at h
      · next hlock =>
        cases h
        exact .acquire i hwaiting (Option.isNone_iff_eq_none.mp hlock)
      · cases h
    · next rest hwriting =>
      split at h
      · next hrest =>
        cases h
        exact .write i rest hwriting hrest
      · next result hrest =>
        cases h
        exact .release i rest result hwriting hrest
    · cases h
  | inr k =>
    rw [next?] at h
    split at h
    · next hnone =>
      cases h
      exact .read k (Option.isNone_iff_eq_none.mp hnone)
    · cases h

lemma steps_of_follow [DecidableEq κ] {schedule : List (ι ⊕ κ)}
    (h : s.follow? writes schedule = some s') : Relation.ReflTransGen (Step writes) s s' := by
  induction schedule generalizing s with
  | nil =>
    cases h
    exact .refl
  | cons who schedule ih =>
    rw [follow?, List.foldlM_cons] at h
    obtain ⟨next, hnext, hrest⟩ := Option.bind_eq_some_iff.mp h
    exact .head (step_of_next hnext) (ih hrest)

lemma writer_acquire (s : Traffic ι κ) (i j : ι) : (s.acquire writes i).writer j
    = if j = i then .writing (stepsOf writes i) else s.writer j :=
  Function.update_apply ..

lemma writer_write (s : Traffic ι κ) (i j : ι) (rest : Steps Unit) : (s.write i rest).writer j
    = if j = i then .writing (rest.move s.folder).1 else s.writer j :=
  Function.update_apply ..

omit [DecidableEq ι] in
lemma getter_read [DecidableEq κ] (s : Traffic ι κ) (k j : κ) : (s.read k).getter j
    = if j = k then ((s.getter k).move s.folder).1 else s.getter j :=
  Function.update_apply ..

lemma writer_release (s : Traffic ι κ) (i j : ι) (result : Except StoreError Unit) :
    (s.release i result).writer j = if j = i then .written result else s.writer j :=
  Function.update_apply ..

namespace Orderly

lemma acquire (h : s.Orderly writes folder) (hwaiting : s.writer i = .waiting)
    (hlock : s.lock = none) : (s.acquire writes i).Orderly writes folder where
  holder j rest hj := by
    rw [writer_acquire] at hj
    split at hj
    · next heq => exact congrArg some heq.symm
    · exact absurd (hlock.symm.trans (h.holder j rest hj)) (by simp)
  free hnone := nomatch hnone
  held j hj := by
    obtain rfl : i = j := Option.some.inj hj
    refine ⟨s.order, stepsOf writes i, rfl, ?_, Write.discreet_steps _ _, ?_, fun _ => ?_⟩
    · rw [writer_acquire, if_pos rfl]
    · rw [← h.free hlock]
      rfl
    · rw [← h.free hlock]
      exact fun _ => rfl
  once := by
    have hfresh : i ∉ s.order := fun hmem => (h.begun i).mp hmem hwaiting
    change (s.order ++ [i]).Nodup
    rw [← List.concat_eq_append]
    exact h.once.concat hfresh
  begun j := by
    rw [writer_acquire]
    change j ∈ s.order ++ [i] ↔ _
    split
    · next heq => simp [heq]
    · next hne => simp [hne, h.begun j]
  written j result hj := by
    rw [writer_acquire] at hj
    split at hj
    · cases hj
    · obtain ⟨earlier, later, horder, hresult⟩ := h.written j result hj
      refine ⟨earlier, later ++ [i], ?_, hresult⟩
      change s.order ++ [i] = _
      rw [horder, List.append_assoc]
      rfl

lemma write (h : s.Orderly writes folder) {rest : Steps Unit}
    (hwriting : s.writer i = .writing rest) (hrest : rest.result? = none) :
    (s.write i rest).Orderly writes folder where
  holder j rest' hj := by
    rw [writer_write] at hj
    split at hj
    · next heq => exact heq ▸ h.holder i rest hwriting
    · exact h.holder j rest' hj
  free hnone := absurd (hnone.symm.trans (h.holder i rest hwriting)) (by simp)
  held j hj := by
    obtain rfl : i = j := Option.some.inj ((h.holder i rest hwriting).symm.trans hj)
    obtain ⟨earlier, rest', horder, hwriting', hdiscreet, houtcome, hsame⟩ := h.held i hj
    obtain rfl : rest' = rest := Writer.writing.inj (hwriting'.symm.trans hwriting)
    obtain ⟨hmoved, hdocuments⟩ := hdiscreet.move s.folder
    refine ⟨earlier, (rest'.move s.folder).1, horder, ?_, hmoved, ?_, fun hnone => ?_⟩
    · rw [writer_write, if_pos rfl]
    · exact (rest'.outcome_move s.folder).trans houtcome
    · exact (hdocuments hnone).trans (hsame hrest)
  once := h.once
  begun j := by
    rw [writer_write]
    change j ∈ s.order ↔ _
    split
    · next heq => simpa [heq, hwriting] using h.begun i
    · exact h.begun j
  written j result hj := by
    rw [writer_write] at hj
    split at hj
    · cases hj
    · exact h.written j result hj

lemma release (h : s.Orderly writes folder) {rest : Steps Unit} {result : Except StoreError Unit}
    (hwriting : s.writer i = .writing rest) (hrest : rest.result? = some result) :
    (s.release i result).Orderly writes folder := by
  have hlock := h.holder i rest hwriting
  obtain ⟨earlier, rest', horder, hwriting', -, houtcome, -⟩ := h.held i hlock
  obtain rfl : rest' = rest := Writer.writing.inj (hwriting'.symm.trans hwriting)
  rw [Steps.outcome_of_result hrest] at houtcome
  refine ⟨fun j rest hj => ?_, fun _ => ?_, nofun, h.once, fun j => ?_, fun j result' hj => ?_⟩
  · rw [writer_release] at hj
    split at hj
    · cases hj
    · next hne => exact absurd (Option.some.inj ((h.holder j rest hj).symm.trans hlock)) hne
  · change s.folder = left writes s.order folder
    rw [horder, left_concat, ← houtcome]
  · rw [writer_release]
    change j ∈ s.order ↔ _
    split
    · next heq => simpa [heq, hwriting] using h.begun i
    · exact h.begun j
  · rw [writer_release] at hj
    split at hj
    · next heq =>
      cases heq
      cases hj
      exact ⟨earlier, [], horder, by rw [← houtcome]⟩
    · exact h.written j result' hj

omit [DecidableEq ι] in
lemma read [DecidableEq κ] {k : κ} (h : s.Orderly writes folder)
    (hfolder : ((s.getter k).move s.folder).2 = s.folder) :
    (s.read k).Orderly writes folder where
  holder := h.holder
  free hnone := hfolder.trans (h.free hnone)
  held i hi := by
    obtain ⟨earlier, rest, horder, hwriting, hdiscreet, houtcome, hsame⟩ := h.held i hi
    have hread : (s.read k).folder = s.folder := hfolder
    rw [← hread] at houtcome hsame
    exact ⟨earlier, rest, horder, hwriting, hdiscreet, houtcome, hsame⟩
  once := h.once
  begun := h.begun
  written := h.written

end Orderly

end Steps

end Traffic

end MockupStudio
