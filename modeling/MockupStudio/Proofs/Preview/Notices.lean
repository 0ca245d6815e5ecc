/-
What went wrong and is noted.

* `Preview.noted`: what a step adds to the notices: the error of a save that
  failed, and the complaints of consumers that are given new data;
* `Preview.returned`: the notices that a step gives back;
* `Preview.Notes`: from one preview to another, the complaints of the consumers are
  noted if there is new data; every step does that (`Preview.notices_step`);
* `Preview.returned_append_notices`: after any steps, the notices that were given
  back and those that are left are all that was noted, in its order.
-/
import MockupStudio.Proofs.Preview.Consumers

namespace MockupStudio

/-- What consumers complain of that are given data and set themselves up. -/
def complaints (data : Json) (consumers : List Consumer) : List PreviewError :=
  consumers.filterMap fun c =>
    (c.receive (.new data)).setUp.complaint?.map PreviewError.consumer

namespace Preview

/-- What a step notes: the error of a save that failed, or the complaints of the
consumers if there is new data. -/
def noted (p : Preview) (step : Step) : List PreviewError :=
  match step with
  | .saved (.error e) => [.store e]
  | step => (p.yield? step).elim [] fun made => complaints made.2 p.consumers

/-- The notices that a step gives back. -/
def returned (p : Preview) : Step → List PreviewError
  | .takeNotices => p.takeNotices.1
  | _ => []

/-- What some steps note, one after the other. -/
def allNoted : Preview → List Step → List PreviewError
  | _, [] => []
  | p, s :: taken => p.noted s ++ allNoted (p.step s) taken

/-- The notices that some steps give back, one after the other. -/
def allReturned : Preview → List Step → List PreviewError
  | _, [] => []
  | p, s :: taken => p.returned s ++ allReturned (p.step s) taken

/-! ### One step -/

section Noting

variable {p q r : Preview} {news : Option Json} {cs cs' : List Consumer}

/-- What a consumer makes of new data depends on its setup and on what it has received. -/
def outfit (c : Consumer) : Initializer × List Reception × Bindings Json :=
  (c.setup, c.received, c.state)

lemma complaints_congr (h : cs.map outfit = cs'.map outfit) (data : Json) :
    complaints data cs = complaints data cs' := by
  have hall (cs : List Consumer) : complaints data cs = (cs.map outfit).filterMap fun o =>
      (o.1.outcome (.new data :: o.2.1)
        (Bindings.insertAll o.2.2 (Consumer.stateMembers data))).complaint?.map
        PreviewError.consumer := by
    rw [List.filterMap_map]
    rfl
  rw [hall, hall, h]

/-- From one preview to another, the complaints of the consumers are noted if there
is new data, and otherwise consumers would make the same of new data. -/
structure Notes (news : Option Json) (p q : Preview) : Prop where
  notices : q.notices = p.notices ++ news.elim [] fun data => complaints data p.consumers
  outfits : news = none → q.consumers.map outfit = p.consumers.map outfit

lemma notes_idle (hconsumers : q.consumers = p.consumers) (hnotices : q.notices = p.notices) :
    Notes none p q where
  notices := hnotices.trans (List.append_nil _).symm
  outfits _ := by rw [hconsumers]

lemma notes_published (hconsumers : q.consumers = p.consumers)
    (hnotices : q.notices = p.notices) : Notes none p q.publish where
  notices := hnotices.trans (List.append_nil _).symm
  outfits _ := by
    rw [publish, List.map_map, hconsumers]
    rfl

lemma notes_delivered (hconsumers : q.consumers = p.consumers)
    (hnotices : q.notices = p.notices) : Notes (some q.data) p q.publish.deliver where
  notices := by
    rw [← hconsumers, ← hnotices, deliver]
    simp only [publish, List.map_map, List.filterMap_map]
    rfl
  outfits h := by cases h

lemma Notes.before (h : Notes none p q) (h' : Notes news q r) : Notes news p r where
  notices := by
    rw [h'.notices, h.notices, Option.elim_none, List.append_nil]
    cases news with
    | none => rfl
    | some data => rw [Option.elim_some, Option.elim_some, complaints_congr (h.outfits rfl)]
  outfits hnews := (h'.outfits hnews).trans (h.outfits rfl)

lemma Notes.after (h : Notes news p q) (h' : Notes none q r) : Notes news p r where
  notices := by rw [h'.notices, h.notices, Option.elim_none, List.append_nil]
  outfits hnews := (h'.outfits rfl).trans (h.outfits hnews)

/-- Steps note complaints about new data. -/
lemma notes_follows : Follows Notes where
  idle hconsumers hnotices _ := notes_idle hconsumers hnotices
  published hconsumers hnotices _ := notes_published hconsumers hnotices
  delivered hconsumers hnotices hdata _ := hdata ▸ notes_delivered hconsumers hnotices
  before := Notes.before
  after := Notes.after

/-- A step gives back what it takes of the notices, and adds what it notes. -/
theorem notices_step (p : Preview) (step : Step) :
    p.returned step ++ (p.step step).notices = p.notices ++ p.noted step := by
  cases step with
  | takeNotices => rfl
  | attach consumer =>
    rw [Preview.step, attach]
    split <;> exact (List.append_nil _).symm
  | saved outcome =>
    cases outcome with
    | ok => exact (List.append_nil _).symm
    | error e => rfl
  | _ =>
    refine (notes_follows.step p (by simp) (by simp) (by simp)).notices.trans ?_
    rw [noted, Option.elim_map]
    · rfl
    · simp

end Noting

/-! ### Many steps -/

/-- The notices that have been given back and those that are left are what there
was before and what has been noted since, each of them once and in its order. -/
theorem returned_append_notices (p : Preview) (taken : List Step) :
    p.allReturned taken ++ (p.steps taken).notices = p.notices ++ p.allNoted taken := by
  induction taken generalizing p with
  | nil => exact (List.append_nil _).symm
  | cons s taken ih =>
    calc p.allReturned (s :: taken) ++ ((p.step s).steps taken).notices
        = p.returned s ++ ((p.step s).allReturned taken ++ ((p.step s).steps taken).notices) :=
          List.append_assoc ..
      _ = (p.returned s ++ (p.step s).notices) ++ (p.step s).allNoted taken := by
          rw [ih, List.append_assoc]
      _ = p.notices ++ p.allNoted (s :: taken) := by
          rw [notices_step, List.append_assoc]
          rfl

end Preview

end MockupStudio
