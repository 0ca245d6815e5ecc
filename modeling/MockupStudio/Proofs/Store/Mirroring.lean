/-
A service that keeps documents does what a shelf does.

* `Keeper.Runs`: the clock of a service goes on from request to request;
* `Keeper.Matches`: what a service and a shelf hold after the same calls;
* `Keeper.Matches.answer`: one more call is answered alike but for times, and leaves
  what matches again;
* `Keeper.Mirrors`: the service cannot be told from a shelf;
* `Keeper.mirrors_of_runs`: so it is for all calls, from an empty store.
-/
import MockupStudio.Proofs.Store.Keeper

namespace MockupStudio

/-- A call on a sound shelf fails for the reason that its catalogue gives. -/
lemma Shelf.answer_failed_iff {shelf : Shelf} (h : shelf.Sound) (now : Timestamp) (call : Call)
    (e : StoreError) : (store.answer now call shelf).1 = .failed e
      ↔ call.refusal? (catalogue shelf) = some e := by
  cases hcall : call.refusal? (catalogue shelf) with
  | some e' =>
    rw [answer_refused hcall, Answer.failed.injEq, Option.some.injEq]
  | none =>
    have hfits := fits h hcall now
    exact iff_of_false (hfits.ne_failed e) (by simp)

namespace Call

variable {σ : Type} {service : Service σ} {catalogue : Catalogue} {call : Call} {id : String}

/-- Nothing is sent for a text that is no id. -/
lemma requests_of_invalid (h : call.refusal? catalogue = some (.invalidId id)) :
    call.requests service catalogue = [] := by
  cases call with
  | list => cases h
  | save k name sources =>
    have hid : ¬ Id.isValid k := by
      intro hid
      rw [refusal?, if_pos hid] at h
      cases h
    exact if_neg hid
  | get k | saveField k field text | remove k | rename k name =>
    have hid : ¬ Id.isValid k := by
      intro hid
      rw [refusal?, Catalogue.absence?, if_pos hid] at h
      split at h <;> cases h
    exact if_neg hid

lemma length_requests_le (service : Service σ) (catalogue : Catalogue) (call : Call) :
    (call.requests service catalogue).length ≤ 2 := by
  cases call with
  | list => exact Nat.le_succ 1
  | get k | save k name sources | saveField k field text | remove k =>
    rw [requests]
    split <;> simp
  | rename k name =>
    rw [requests]
    split
    · cases catalogue k <;> simp
    · simp

end Call

namespace Keeper

variable {keeper : Keeper} {holding : Holding} {shelf : Shelf} {call : Call}
  {done : List (Timestamp × Call)} {now : Timestamp} {n : Nat}

/-- The clock of a service goes on from request to request, within the points in time
that there are. -/
def Runs (keeper : Keeper) (n : Nat) : Prop :=
  ∀ j < n, (keeper.clock j).InRange ∧ ∀ i < j, (keeper.clock i).Before (keeper.clock j)

instance (keeper : Keeper) (n : Nat) : Decidable (keeper.Runs n) :=
  inferInstanceAs (Decidable (∀ j < n, _ ∧ ∀ i < j, _))

lemma Runs.of_le {m : Nat} (h : keeper.Runs n) (hle : m ≤ n) : keeper.Runs m :=
  fun j hj => h j (hj.trans_le hle)

lemma exists_reading (keeper : Keeper) (n : Nat) (call : Call) :
    ∃ m, keeper.reading n call = keeper.clock m ∧ n ≤ m ∧ m < n + 2 := by
  cases call with
  | rename id name => exact ⟨n + 1, rfl, by omega, by omega⟩
  | list | get | save | saveField | remove => exact ⟨n, rfl, by omega, by omega⟩

/-- A call that does not fail is noted when the last of its requests comes in. -/
lemma exists_reading_lt (hcall : call.refusal? (Shelf.catalogue holding.shelf) = none) (n : Nat) :
    ∃ m, keeper.reading n call = keeper.clock m
      ∧ m < n + (call.requests keeper.service (Shelf.catalogue holding.shelf)).length := by
  cases call with
  | list => exact ⟨n, rfl, by simp [Call.requests]⟩
  | save id name sources =>
    have hid := Call.isValid_of_save hcall
    exact ⟨n, rfl, by simp [Call.requests, hid]⟩
  | get id | saveField id field text | remove id =>
    obtain ⟨d, hd⟩ := Shelf.exists_find hcall
    have hid := (Shelf.find_eq_ok.mp hd).1
    exact ⟨n, rfl, by simp [Call.requests, hid]⟩
  | rename id name =>
    obtain ⟨d, hd⟩ := Shelf.exists_find hcall
    have hid := (Shelf.find_eq_ok.mp hd).1
    have hentry := Shelf.catalogue_of_find hd
    exact ⟨n + 1, rfl, by simp [Call.requests, hid, hentry]⟩

/-! ### One call -/

/-- What a service and a shelf hold after the same calls: the same documents but for
their times, which are those of the requests here and those of the calls there. -/
structure Matches (keeper : Keeper) (done : List (Timestamp × Call)) (holding : Holding)
    (shelf : Shelf) : Prop where
  soundHere : holding.shelf.Sound
  soundThere : shelf.Sound
  alike : holding.shelf.documents.Alike shelf.documents
  datedHere : holding.shelf.documents.Dated
    fun t => ∃ m < holding.received.length, t = keeper.clock m
  datedThere : shelf.documents.Dated fun t => ∃ call ∈ done, t = call.1
  received : holding.received.length ≤ 2 * done.length

namespace Matches

lemma empty (keeper : Keeper) : keeper.Matches [] {} [] where
  soundHere := Shelf.sound_empty
  soundThere := Shelf.sound_empty
  alike := .refl _
  datedHere _ _ hd := by cases hd
  datedThere _ _ hd := by cases hd
  received := Nat.le_refl 0

variable (h : keeper.Matches done holding shelf)
include h

lemma catalogue_eq : Shelf.catalogue holding.shelf = Shelf.catalogue shelf := h.alike.catalogue_eq

lemma inRange (hruns : keeper.Runs (2 * done.length)) :
    holding.shelf.documents.Dated Timestamp.InRange := by
  refine h.datedHere.imp ?_
  rintro _ ⟨m, hm, rfl⟩
  have hreceived := h.received
  exact (hruns m (by omega)).1

lemma before_reading (hruns : keeper.Runs (2 * (done.length + 1))) (call : Call) :
    holding.shelf.documents.Dated
      (·.Before (keeper.reading holding.received.length call)) := by
  obtain ⟨j, hreading, hle, hlt⟩ := keeper.exists_reading holding.received.length call
  refine h.datedHere.imp ?_
  rintro _ ⟨m, hm, rfl⟩
  have hreceived := h.received
  rw [hreading]
  exact (hruns j (by omega)).2 m (by omega)

lemma before_now (hlater : ∀ call ∈ done, call.1.Before now) :
    shelf.documents.Dated (·.Before now) := by
  refine h.datedThere.imp ?_
  rintro _ ⟨call, hcall, rfl⟩
  exact hlater call hcall

/-- What a call does to a service is what it does to its shelf. -/
lemma answer_eq (hruns : keeper.Runs (2 * (done.length + 1))) (now : Timestamp) (call : Call) :
    keeper.service.store.answer now call holding
      = ((Shelf.store.answer (keeper.reading holding.received.length call) call holding.shelf).1,
        holding.afterCall keeper call (Shelf.store.answer
          (keeper.reading holding.received.length call) call holding.shelf).2) :=
  Keeper.answer_eq now h.soundHere (h.inRange (hruns.of_le (by omega)))
    (h.before_reading hruns call)

lemma failed_iff (hruns : keeper.Runs (2 * (done.length + 1))) (now : Timestamp) (call : Call)
    (e : StoreError) : (keeper.service.store.answer now call holding).1 = .failed e
      ↔ call.refusal? (Shelf.catalogue shelf) = some e := by
  rw [h.answer_eq hruns, Shelf.answer_failed_iff h.soundHere, h.catalogue_eq]

/-- One more call is answered alike but for times, and leaves what matches again. -/
lemma answer (hruns : keeper.Runs (2 * (done.length + 1)))
    (hlater : ∀ call ∈ done, call.1.Before now) (call : Call) :
    (keeper.service.store.answer now call holding).1.undated
        = (Shelf.store.answer now call shelf).1.undated
      ∧ keeper.Matches (done ++ [(now, call)]) (keeper.service.store.answer now call holding).2
        (Shelf.store.answer now call shelf).2 := by
  have hpast := h.before_reading hruns call
  have hpast' := h.before_now hlater
  obtain ⟨hanswers, halike⟩ :=
    Shelf.alike_answer h.soundHere h.soundThere h.alike hpast hpast' call
  rw [h.answer_eq hruns]
  refine ⟨hanswers, {
    soundHere := h.soundHere.answer _ call
    soundThere := h.soundThere.answer now call
    alike := halike
    datedHere := Shelf.dated_answer h.soundHere hpast (h.datedHere.imp ?_) fun hcall => ?_
    datedThere := Shelf.dated_answer h.soundThere hpast' (h.datedThere.imp ?_) fun _ => ?_
    received := ?_ }⟩
  · rintro _ ⟨m, hm, rfl⟩
    refine ⟨m, ?_, rfl⟩
    rw [Holding.afterCall, List.length_append]
    omega
  · obtain ⟨m, hreading, hm⟩ :=
      keeper.exists_reading_lt hcall holding.received.length
    refine ⟨m, ?_, hreading⟩
    rwa [Holding.afterCall, List.length_append]
  · rintro _ ⟨call, hcall, rfl⟩
    exact ⟨call, List.mem_append_left _ hcall, rfl⟩
  · exact ⟨(now, call), List.mem_append_right _ List.mem_cons_self, rfl⟩
  · have hreceived := h.received
    have hrequests := Call.length_requests_le keeper.service (Shelf.catalogue holding.shelf) call
    rw [Holding.afterCall, List.length_append, List.length_append, List.length_singleton]
    omega

end Matches

/-! ### Calls one after the other -/

/-- Calls one after the other are answered alike but for times. -/
lemma run_matches (calls : List (Timestamp × Call))
    (hclock : (calls.map Prod.fst).Pairwise Timestamp.Before)
    (hruns : keeper.Runs (2 * calls.length)) :
    (keeper.service.store.run calls {}).1.map Answer.undated
        = (Shelf.store.run calls []).1.map Answer.undated
      ∧ keeper.Matches calls (keeper.service.store.run calls {}).2
        (Shelf.store.run calls []).2 := by
  induction calls using List.reverseRecOn with
  | nil => exact ⟨rfl, .empty keeper⟩
  | append_singleton done call ih =>
    obtain ⟨now, call⟩ := call
    rw [List.map_append, List.pairwise_append] at hclock
    rw [List.length_append, List.length_singleton] at hruns
    obtain ⟨hanswers, hmatches⟩ := ih hclock.1 (hruns.of_le (by omega))
    have hlater : ∀ earlier ∈ done, earlier.1.Before now := fun earlier hearlier =>
      hclock.2.2 _ (List.mem_map_of_mem hearlier) now List.mem_cons_self
    obtain ⟨hanswer, hafter⟩ := hmatches.answer hruns hlater call
    rw [DocumentStore.run_concat, DocumentStore.run_concat, List.map_append, List.map_append,
      hanswers]
    exact ⟨congrArg (_ ++ [·]) hanswer, hafter⟩

/-- A service cannot be told from a shelf by calls to it. -/
structure Mirrors (keeper : Keeper) (calls : List (Timestamp × Call)) : Prop where
  /-- The answers are the same but for times. -/
  answers : (keeper.service.store.run calls {}).1.map Answer.undated
    = (Shelf.store.run calls []).1.map Answer.undated
  /-- A call fails here and there for the reason that the calls before it give. -/
  failed : ∀ done now call rest e, calls = done ++ (now, call) :: rest →
    let reason := call.refusal? ((done.map Prod.snd).foldl Catalogue.step fun _ => none)
    ((keeper.service.store.answer now call (keeper.service.store.run done {}).2).1 = .failed e
        ↔ reason = some e)
      ∧ ((Shelf.store.answer now call (Shelf.store.run done []).2).1 = .failed e
        ↔ reason = some e)
  /-- For every call, its requests are sent and no others. -/
  sent : ∀ done now call rest, calls = done ++ (now, call) :: rest →
    (keeper.service.store.answer now call (keeper.service.store.run done {}).2).2.received
      = (keeper.service.store.run done {}).2.received ++ call.requests keeper.service
        ((done.map Prod.snd).foldl Catalogue.step fun _ => none)
  /-- Nothing is sent for a text that is no id. -/
  unsent : ∀ done now call rest id, calls = done ++ (now, call) :: rest →
    (keeper.service.store.answer now call (keeper.service.store.run done {}).2).1
        = .failed (.invalidId id) →
      (keeper.service.store.answer now call (keeper.service.store.run done {}).2).2
        = (keeper.service.store.run done {}).2

/-- Whatever is called, a service whose clock goes on cannot be told from a shelf. -/
theorem mirrors_of_runs (keeper : Keeper) (calls : List (Timestamp × Call))
    (hclock : (calls.map Prod.fst).Pairwise Timestamp.Before)
    (hruns : keeper.Runs (2 * calls.length)) : keeper.Mirrors calls := by
  have hbefore {done now call rest} (hsplit : calls = done ++ (now, call) :: rest) :
      keeper.Matches done (keeper.service.store.run done {}).2 (Shelf.store.run done []).2
        ∧ keeper.Runs (2 * (done.length + 1)) := by
    subst hsplit
    rw [List.map_append, List.pairwise_append] at hclock
    rw [List.length_append, List.length_cons] at hruns
    exact ⟨(run_matches done hclock.1 (hruns.of_le (by omega))).2, hruns.of_le (by omega)⟩
  have hhistory (done) : Shelf.catalogue (Shelf.store.run done []).2
      = (done.map Prod.snd).foldl Catalogue.step fun _ => none := Shelf.catalogue_run done []
  refine ⟨(run_matches calls hclock hruns).1, ?_, ?_, ?_⟩
  · intro done now call rest e hsplit
    obtain ⟨hmatches, hruns⟩ := hbefore hsplit
    refine ⟨?_, ?_⟩
    · rw [hmatches.failed_iff hruns, hhistory]
    · rw [Shelf.answer_failed_iff hmatches.soundThere, hhistory]
  · intro done now call rest hsplit
    obtain ⟨hmatches, hruns⟩ := hbefore hsplit
    rw [hmatches.answer_eq hruns, Holding.afterCall, hmatches.catalogue_eq, hhistory]
  · intro done now call rest id hsplit hfailed
    obtain ⟨hmatches, hruns⟩ := hbefore hsplit
    have hcall := (hmatches.failed_iff hruns now call _).mp hfailed
    rw [← hmatches.catalogue_eq] at hcall
    rw [answer_refused now hcall]
    exact afterCall_of_none keeper _ call (Call.requests_of_invalid hcall)

/-- A service that lists what it keeps the other way round. -/
def desk : Keeper where
  base := ⟨"http", some "localhost:3001", []⟩
  clock n := ⟨n, 0⟩
  arrange _ := List.reverse
  arrange_perm _ := List.reverse_perm

/-- Calls about two documents, about one that there is not and about a text that is no
id. -/
def deskCalls : List (Timestamp × Call) :=
  [(⟨50, 0⟩, .save "a" "A" Sources.empty), (⟨51, 0⟩, .save "b" "B" Sources.empty),
    (⟨52, 0⟩, .saveField "a" .style "p"), (⟨53, 0⟩, .rename "b" "C"), (⟨54, 0⟩, .list),
    (⟨55, 0⟩, .get "c"), (⟨56, 0⟩, .remove "../a")]

/-- The desk cannot be told from a shelf; what was renamed last comes first. -/
theorem desk_mirrors : (deskCalls.map Prod.fst).Pairwise Timestamp.Before
    ∧ desk.Runs (2 * deskCalls.length) ∧ desk.Mirrors deskCalls
    ∧ (desk.service.store.run deskCalls {}).1.map Answer.undated
      = [.done, .done, .done, .done, .listing [⟨"b", "C", ⟨0, 0⟩⟩, ⟨"a", "A", ⟨0, 0⟩⟩],
        .failed (.notFound "c"), .failed (.invalidId "../a")] := by
  have hclock : (deskCalls.map Prod.fst).Pairwise Timestamp.Before := by decide
  have hruns : desk.Runs (2 * deskCalls.length) := by decide
  have hmirrors : desk.Mirrors deskCalls := mirrors_of_runs desk deskCalls hclock hruns
  refine ⟨hclock, hruns, hmirrors, hmirrors.answers.trans ?_⟩
  cbv

end Keeper

end MockupStudio
