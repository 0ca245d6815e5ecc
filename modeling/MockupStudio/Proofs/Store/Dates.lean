/-
Documents that are the same but for their times.

* `Document.undated`, `Answer.undated`: the times left out;
* `Documents.Above`: one document stands above another in a listing;
* `Documents.Alike`: the same documents but for their times, in the same order;
* `Documents.Alike.undated_eq`: then the answers to a call are the same but for
  times;
* `Shelf.documents_answer`: what a call leaves at a moment after all times;
* `Shelf.alike_answer`: shelves stay alike under a call, each at a moment after its
  own times.
-/
import MockupStudio.Proofs.Store.Shelf

namespace MockupStudio

/-- A document without its time. -/
def Document.undated (d : Document) : Document := { d with modifiedAt := ⟨0, 0⟩ }

/-- A summary without its time. -/
def Summary.undated (s : Summary) : Summary := { s with modifiedAt := ⟨0, 0⟩ }

/-- An answer without the times in it. -/
def Answer.undated : Answer → Answer
  | done => done
  | listing summaries => listing (summaries.map Summary.undated)
  | document d => document d.undated
  | failed e => failed e

lemma Summary.Precedes.not_precedes {s t : Summary} (h : s.Precedes t) : ¬ t.Precedes s := by
  rintro (hback | ⟨htime, hid⟩)
  · rcases h with h | ⟨htime, -⟩
    · exact Timestamp.Before.irrefl _ (h.trans hback)
    · exact Timestamp.Before.irrefl _ (htime ▸ hback)
  · rcases h with h | ⟨-, hid'⟩
    · exact Timestamp.Before.irrefl _ (htime ▸ h)
    · exact lt_asymm hid hid'

namespace Documents

variable {documents other : Documents} {now now' : Timestamp} {P Q : Timestamp → Prop}
  {id a b : String} {d : Document} {entry : Option (String × Sources)}

/-- Whether something holds of the times of all documents. -/
def Dated (documents : Documents) (P : Timestamp → Prop) : Prop :=
  ∀ id d, documents id = some d → P d.modifiedAt

lemma Dated.imp (h : documents.Dated P) (himp : ∀ t, P t → Q t) : documents.Dated Q :=
  fun id d hd => himp _ (h id d hd)

/-! ### Order -/

/-- Whether one document stands above another in a listing. -/
def Above (documents : Documents) (a b : String) : Prop :=
  ∃ d e, documents a = some d ∧ documents b = some e ∧ d.summary.Precedes e.summary

lemma Above.not_above (h : documents.Above a b) : ¬ documents.Above b a := by
  rintro ⟨e', d', he', hd', hback⟩
  obtain ⟨d, e, hd, he, habove⟩ := h
  cases hd.symm.trans hd'
  cases he.symm.trans he'
  exact habove.not_precedes hback

/-- The same documents but for their times, in the same order. -/
structure Alike (documents other : Documents) : Prop where
  undated : ∀ id, (documents id).map Document.undated = (other id).map Document.undated
  above : ∀ a b, documents.Above a b ↔ other.Above a b

namespace Alike

lemma refl (documents : Documents) : documents.Alike documents := ⟨fun _ => rfl, fun _ _ => .rfl⟩

lemma catalogue_eq (h : documents.Alike other) : documents.catalogue = other.catalogue := by
  funext id
  have hundated := congrArg (Option.map fun d : Document => (d.name, d.sources)) (h.undated id)
  rw [Option.map_map, Option.map_map] at hundated
  exact hundated

end Alike

/-! ### Answers -/

lemma pairwise_above {summaries : List Summary} (hkeyed : ∀ id d, documents id = some d → d.id = id)
    (hsorted : summaries.Pairwise Summary.Precedes)
    (hmem : ∀ s, s ∈ summaries ↔ ∃ id d, documents id = some d ∧ d.summary = s) :
    (summaries.map Summary.undated).Pairwise fun s t => documents.Above s.id t.id := by
  refine List.pairwise_map.mpr (hsorted.imp_of_mem fun {s t} hs ht hst => ?_)
  obtain ⟨a, d, hd, rfl⟩ := (hmem s).mp hs
  obtain ⟨b, e, he, rfl⟩ := (hmem t).mp ht
  obtain rfl := hkeyed a d hd
  obtain rfl := hkeyed b e he
  exact ⟨d, e, hd, he, hst⟩

lemma mem_undated {summaries : List Summary}
    (hmem : ∀ s, s ∈ summaries ↔ ∃ id d, documents id = some d ∧ d.summary = s) (s : Summary) :
    s ∈ summaries.map Summary.undated
      ↔ ∃ id d, (documents id).map Document.undated = some d ∧ d.summary = s := by
  rw [List.mem_map]
  constructor
  · rintro ⟨t, ht, rfl⟩
    obtain ⟨id, d, hd, rfl⟩ := (hmem t).mp ht
    exact ⟨id, d.undated, by rw [hd]; rfl, rfl⟩
  · rintro ⟨id, d, hd, rfl⟩
    obtain ⟨e, he, rfl⟩ := Option.map_eq_some_iff.mp hd
    exact ⟨e.summary, (hmem _).mpr ⟨id, e, he, rfl⟩, rfl⟩

/-- Listings in order are the same but for times: whatever is in the one is in the
other, and at the same place. -/
lemma Alike.listing_eq (h : documents.Alike other)
    (hkeyed : ∀ id d, documents id = some d → d.id = id)
    (hkeyed' : ∀ id d, other id = some d → d.id = id) {summaries summaries' : List Summary}
    (hsorted : summaries.Pairwise Summary.Precedes)
    (hsorted' : summaries'.Pairwise Summary.Precedes)
    (hmem : ∀ s, s ∈ summaries ↔ ∃ id d, documents id = some d ∧ d.summary = s)
    (hmem' : ∀ s, s ∈ summaries' ↔ ∃ id d, other id = some d ∧ d.summary = s) :
    summaries.map Summary.undated = summaries'.map Summary.undated := by
  have habove := pairwise_above hkeyed hsorted hmem
  have habove' : (summaries'.map Summary.undated).Pairwise fun s t => documents.Above s.id t.id :=
    (pairwise_above hkeyed' hsorted' hmem').imp fun hst => (h.above _ _).mpr hst
  have hnodup {l : List Summary} (hl : l.Pairwise fun s t => documents.Above s.id t.id) :
      l.Nodup := by
    refine hl.imp fun {s t} hst heq => ?_
    subst heq
    exact hst.not_above hst
  have hperm : (summaries.map Summary.undated).Perm (summaries'.map Summary.undated) := by
    refine (List.perm_ext_iff_of_nodup (hnodup habove) (hnodup habove')).mpr fun s => ?_
    rw [mem_undated hmem, mem_undated hmem']
    simp only [h.undated]
  exact hperm.eq_of_pairwise (fun s t _ _ hst hts => absurd hts hst.not_above) habove habove'

/-- The answers to a call that does not fail are the same but for times. -/
theorem Alike.undated_eq (h : documents.Alike other)
    (hkeyed : ∀ id d, documents id = some d → d.id = id)
    (hkeyed' : ∀ id d, other id = some d → d.id = id) {call : Call} {answer answer' : Answer}
    (hfits : call.Fits documents answer) (hfits' : call.Fits other answer') :
    answer.undated = answer'.undated := by
  cases call with
  | list =>
    obtain ⟨summaries, rfl, hsorted, hmem⟩ := hfits
    obtain ⟨summaries', rfl, hsorted', hmem'⟩ := hfits'
    exact congrArg Answer.listing (h.listing_eq hkeyed hkeyed' hsorted hsorted' hmem hmem')
  | get id =>
    obtain ⟨d, rfl, hd⟩ := hfits
    obtain ⟨e, rfl, he⟩ := hfits'
    have hundated := h.undated id
    rw [hd, he, Option.map_some, Option.map_some, Option.some.injEq] at hundated
    exact congrArg Answer.document hundated
  | save | saveField | remove | rename => rw [hfits, hfits']

/-! ### Changes -/

/-- The documents once one is noted now under its id, or once there is none. -/
def put (documents : Documents) (now : Timestamp) (id : String)
    (entry : Option (String × Sources)) : Documents :=
  Function.update documents id (entry.map fun e => ⟨id, e.1, now, e.2⟩)

lemma put_of_ne (h : a ≠ id) : documents.put now id entry a = documents a :=
  Function.update_of_ne h _ _

lemma put_self : documents.put now id entry id = entry.map fun e => ⟨id, e.1, now, e.2⟩ :=
  Function.update_self _ _ _

lemma Dated.put (h : documents.Dated P) (hnow : P now) (id : String)
    (entry : Option (String × Sources)) : (documents.put now id entry).Dated P := by
  intro k d hd
  by_cases hk : k = id
  · rw [hk, put_self] at hd
    obtain ⟨e, -, rfl⟩ := Option.map_eq_some_iff.mp hd
    exact hnow
  · rw [put_of_ne hk] at hd
    exact h k d hd

/-- A document that is there is noted now under its id, or was there before. -/
lemma cases_of_put (hd : documents.put now id entry a = some d) :
    a = id ∧ d.id = id ∧ d.modifiedAt = now ∨ a ≠ id ∧ documents a = some d := by
  by_cases ha : a = id
  · subst ha
    rw [put_self] at hd
    obtain ⟨e, -, rfl⟩ := Option.map_eq_some_iff.mp hd
    exact .inl ⟨rfl, rfl, rfl⟩
  · exact .inr ⟨ha, (put_of_ne ha).symm.trans hd⟩

/-- Nothing stands above a document that is noted after all the others. -/
lemma not_above_put (hpast : documents.Dated (·.Before now)) :
    ¬ (documents.put now id entry).Above a id := by
  rintro ⟨d, e, hd, he, habove⟩
  obtain ⟨-, heid, hetime⟩ | ⟨hne, -⟩ := cases_of_put he
  · have hirrefl := Timestamp.Before.irrefl now
    obtain ⟨-, hdid, hdtime⟩ | ⟨-, hold⟩ := cases_of_put hd
    · rcases habove with (hnewer : e.modifiedAt.Before d.modifiedAt) | ⟨-, (hid : d.id < e.id)⟩
      · rw [hetime, hdtime] at hnewer
        exact hirrefl hnewer
      · rw [hdid, heid] at hid
        exact lt_irrefl id hid
    · have hbefore : d.modifiedAt.Before now := hpast a d hold
      rcases habove with (hnewer : e.modifiedAt.Before d.modifiedAt)
        | ⟨(htime : d.modifiedAt = e.modifiedAt), -⟩
      · rw [hetime] at hnewer
        exact hirrefl (hnewer.trans hbefore)
      · rw [htime, hetime] at hbefore
        exact hirrefl hbefore
  · exact hne rfl

/-- A document that is noted after all the others stands above them. -/
lemma put_above (hpast : documents.Dated (·.Before now)) (hb : b ≠ id) :
    (documents.put now id entry).Above id b ↔ entry.isSome ∧ (documents b).isSome := by
  rw [Above, put_self, put_of_ne hb]
  constructor
  · rintro ⟨d, e, hd, he, -⟩
    obtain ⟨entry', hentry, -⟩ := Option.map_eq_some_iff.mp hd
    exact ⟨Option.isSome_of_mem hentry, Option.isSome_of_mem he⟩
  · rintro ⟨hentry, he⟩
    obtain ⟨entry', rfl⟩ := Option.isSome_iff_exists.mp hentry
    obtain ⟨e, he⟩ := Option.isSome_iff_exists.mp he
    exact ⟨_, e, rfl, he, .inl (hpast b e he)⟩

lemma Alike.put (h : documents.Alike other) (hpast : documents.Dated (·.Before now))
    (hpast' : other.Dated (·.Before now')) (id : String) (entry : Option (String × Sources)) :
    (documents.put now id entry).Alike (other.put now' id entry) where
  undated k := by
    by_cases hk : k = id
    · subst hk
      rw [put_self, put_self, Option.map_map, Option.map_map]
      rfl
    · rw [put_of_ne hk, put_of_ne hk, h.undated k]
  above a b := by
    by_cases hb : b = id
    · subst hb
      exact iff_of_false (not_above_put hpast) (not_above_put hpast')
    · by_cases ha : a = id
      · subst ha
        have hsome : (documents b).isSome = (other b).isSome :=
          calc (documents b).isSome
              = ((documents b).map Document.undated).isSome := Option.isSome_map.symm
            _ = ((other b).map Document.undated).isSome := by rw [h.undated b]
            _ = (other b).isSome := Option.isSome_map
        rw [put_above hpast hb, put_above hpast' hb, hsome]
      · rw [Above, Above, put_of_ne ha, put_of_ne ha, put_of_ne hb, put_of_ne hb]
        exact h.above a b

end Documents

/-! ### Calls -/

namespace Shelf

variable {shelf other : Shelf} {now now' : Timestamp} {call : Call} {id : String}
  {d : Document}

/-- The documents of a shelf by their ids. -/
def documents (shelf : Shelf) : Documents := fun id => Bindings.get? id shelf

/-- The documents when a call has been made that does not fail. -/
def after (shelf : Shelf) (now : Timestamp) (call : Call) : Documents :=
  match call.target? with
  | some id => shelf.documents.put now id ((catalogue shelf).after call id)
  | none => shelf.documents

lemma documents_insert : documents (Bindings.insert id d shelf)
    = Function.update shelf.documents id (some d) := by
  funext k
  rw [documents, Bindings.get?_insert, Function.update_apply, documents]
  simp only [eq_comm]

lemma documents_erase : documents (Bindings.erase id shelf)
    = Function.update shelf.documents id none := by
  funext k
  rw [documents, Bindings.get?_erase, Function.update_apply, documents]

/-- What is saved now is noted now, where all times are before. -/
lemma savedOver_eq (hsound : shelf.Sound) (hpast : shelf.documents.Dated (·.Before now))
    (id name : String) (sources : Sources) :
    Document.savedOver now id name sources (Bindings.get? id shelf) = ⟨id, name, now, sources⟩ := by
  cases hd : Bindings.get? id shelf with
  | none => rfl
  | some d =>
    have htime : Document.changeTime now d.modifiedAt = now := if_pos (hpast id d hd)
    obtain ⟨-, rfl⟩ := hsound.keyed id d hd
    exact congrArg (Document.mk d.id name · sources) htime

lemma updateField_eq (hsound : shelf.Sound) (hpast : shelf.documents.Dated (·.Before now))
    (hd : Bindings.get? id shelf = some d) (field : Stage) (text : String) :
    d.updateField now field text = ⟨id, d.name, now, d.sources.set field text⟩ := by
  have htime : Document.changeTime now d.modifiedAt = now := if_pos (hpast id d hd)
  obtain ⟨-, rfl⟩ := hsound.keyed id d hd
  exact congrArg (Document.mk d.id d.name · (d.sources.set field text)) htime

/-- What a call leaves that does not fail, at a moment after all times. -/
lemma documents_answer (hsound : shelf.Sound) (hpast : shelf.documents.Dated (·.Before now))
    (hcall : call.refusal? (catalogue shelf) = none) :
    documents (store.answer now call shelf).2 = shelf.after now call := by
  cases call with
  | list => rfl
  | get id =>
    obtain ⟨d, hd⟩ := exists_find hcall
    rw [answer_get hd]
    rfl
  | save id name sources =>
    have hid := Call.isValid_of_save hcall
    rw [answer_save hid, savedOver_eq hsound hpast, documents_insert]
    simp only [after, Call.target?, Catalogue.after, Documents.put, Function.update_self]
    rfl
  | saveField id field text =>
    obtain ⟨d, hd⟩ := exists_find hcall
    rw [answer_saveField hd, updateField_eq hsound hpast (find_eq_ok.mp hd).2.1, documents_insert]
    simp only [after, Call.target?, Catalogue.after, Documents.put, Function.update_self,
      catalogue_of_find hd]
    rfl
  | remove id =>
    obtain ⟨d, hd⟩ := exists_find hcall
    rw [answer_remove hd, documents_erase]
    simp only [after, Call.target?, Catalogue.after, Documents.put, Function.update_self]
    rfl
  | rename id name =>
    obtain ⟨d, hd⟩ := exists_find hcall
    rw [DocumentStore.answer_rename hd, answer_save (find_eq_ok.mp hd).1,
      savedOver_eq hsound hpast, documents_insert]
    simp only [after, Call.target?, Catalogue.after, Documents.put, Function.update_self,
      catalogue_of_find hd]
    rfl

/-- Every document was there before a call, or is noted at its moment. -/
lemma dated_answer {P : Timestamp → Prop} (hsound : shelf.Sound)
    (hpast : shelf.documents.Dated (·.Before now)) (h : shelf.documents.Dated P)
    (hnow : call.refusal? (catalogue shelf) = none → P now) :
    (documents (store.answer now call shelf).2).Dated P := by
  cases hcall : call.refusal? (catalogue shelf) with
  | some e => rwa [answer_refused hcall]
  | none =>
    rw [documents_answer hsound hpast hcall, after]
    split
    · exact h.put (hnow hcall) _ _
    · exact h

/-- Two shelves that are alike answer a call alike and stay so, each at a moment after
its own times. -/
theorem alike_answer (hsound : shelf.Sound) (hsound' : other.Sound)
    (h : shelf.documents.Alike other.documents) (hpast : shelf.documents.Dated (·.Before now))
    (hpast' : other.documents.Dated (·.Before now')) (call : Call) :
    (store.answer now call shelf).1.undated = (store.answer now' call other).1.undated
      ∧ (documents (store.answer now call shelf).2).Alike
        (documents (store.answer now' call other).2) := by
  have hcatalogue : catalogue shelf = catalogue other := h.catalogue_eq
  cases hcall : call.refusal? (catalogue shelf) with
  | some e =>
    rw [answer_refused hcall, answer_refused (hcatalogue ▸ hcall)]
    exact ⟨rfl, h⟩
  | none =>
    have hcall' : call.refusal? (catalogue other) = none := hcatalogue ▸ hcall
    have hkeyed id d (hd : shelf.documents id = some d) := (hsound.keyed id d hd).2
    have hkeyed' id d (hd : other.documents id = some d) := (hsound'.keyed id d hd).2
    refine ⟨h.undated_eq hkeyed hkeyed' (fits hsound hcall now) (fits hsound' hcall' now'), ?_⟩
    rw [documents_answer hsound hpast hcall, documents_answer hsound' hpast' hcall', after, after,
      hcatalogue]
    split
    · exact h.put hpast hpast' _ _
    · exact h

end Shelf

end MockupStudio
