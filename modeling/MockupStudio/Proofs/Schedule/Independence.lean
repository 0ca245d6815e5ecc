/-
Wrappers that share a clock.

* `Timer.Action`, `Agenda.Event`: what may be done to a wrapper, and what may
  happen on an agenda; `Event.project` finds the part of one wrapper in it;
* `Agenda.history`: what is seen of one wrapper while some events take place;
* `Agenda.Passes`: how one place fares while time passes;
  `Agenda.passes_runUntil`: whatever else is due in between;
* `Agenda.Agrees`: two agendas that have the same wrapper, each at a place of
  its own; `Agrees.run`, `Agrees.run_other`: what an event does to that;
* `Agenda.history_of_own_events`: a wrapper fares as if nothing were done to
  the others, and as if they were not there.
-/
import MockupStudio.Schedule.Agenda
import Mathlib

namespace MockupStudio

namespace Timer

/-- The two kinds of wrappers. -/
inductive Kind where
  | debounce
  | rebounce

/-- What may be done to a wrapper. -/
inductive Action (α : Type) where
  | call (a : α)
  | flush
  | cancel
  | drop

variable {α : Type}

/-- A new wrapper. -/
def new (window : Nat) : Kind → Timer α
  | .debounce => debounce { window }
  | .rebounce => rebounce { window }

/-- Whether an argument is waiting. -/
def isPending : Timer α → Bool
  | debounce d => d.isPending
  | rebounce r => r.isPending

/-- Whether a window runs, which can be asked of a rebounce alone. -/
def isCooling? : Timer α → Option Bool
  | debounce _ => none
  | rebounce r => some r.isCooling

end Timer

namespace Agenda

variable {α : Type}

/-- New wrappers, each with a window of its own. -/
def start (wrappers : List (Timer.Kind × Nat)) : Agenda α :=
  { timers := wrappers.map fun w => some (Timer.new w.2 w.1) }

/-- What may happen on an agenda. -/
inductive Event (α : Type) where
  /-- Something is done to the wrapper at a place. -/
  | act (i : Nat) (action : Timer.Action α)
  /-- Time passes. -/
  | advance (span : Nat)

namespace Event

/-- An event without the timers that are due by then. -/
def take : Event α → Agenda α → List (Firing α) × Agenda α
  | act i (.call a), agenda => agenda.call i a
  | act i .flush, agenda => agenda.flush i
  | act i .cancel, agenda => ([], agenda.cancel i)
  | act i .drop, agenda => ([], agenda.drop i)
  | advance span, agenda => agenda.advance span

/-- An event; if the agenda is prompt, what is due runs without waiting for
time to pass. -/
def run (prompt : Bool) (e : Event α) (agenda : Agenda α) : List (Firing α) × Agenda α :=
  if prompt then
    ((e.take agenda).1 ++ (e.take agenda).2.settle.1, (e.take agenda).2.settle.2)
  else e.take agenda

/-- What an event answers of the wrapper at a place: a flush, whether it has
fired something. -/
def answer? (i : Nat) : Event α → Agenda α → Option Bool
  | act j .flush, agenda =>
    if j = i then (agenda.timer? i).map fun timer => timer.flush.1.isSome else none
  | _, _ => none

/-- Whether an event is one of the wrapper at a place, or time passes. -/
def concerns (i : Nat) : Event α → Bool
  | act j _ => j = i
  | advance _ => true

/-- What an event does to the wrapper at a place, done at another place. -/
def project (i j : Nat) : Event α → Option (Event α)
  | act k action => if k = i then some (act j action) else none
  | advance span => some (advance span)

end Event

/-- What is seen of one wrapper. -/
structure History (α : Type) where
  /-- What has fired, and when. -/
  fired : List (Nat × α)
  /-- What flushes have answered. -/
  answers : List Bool
  /-- Whether an argument is waiting, unless the wrapper is dropped. -/
  isPending : Option Bool
  /-- Whether a window runs, where this can be asked. -/
  isCooling : Option Bool
  deriving DecidableEq

/-- What the timer at a place has fired, and when. -/
def firedAt (i : Nat) (fs : List (Firing α)) : List (Nat × α) :=
  (fs.filter fun f => f.timer = i).map fun f => (f.time, f.arg)

/-- What is seen of the wrapper at a place once some events have taken place. -/
def history (prompt : Bool) (i : Nat) : List (Event α) → Agenda α → History α
  | [], agenda =>
    ⟨[], [], (agenda.timer? i).map Timer.isPending, (agenda.timer? i).bind Timer.isCooling?⟩
  | e :: es, agenda =>
    let later := history prompt i es (e.run prompt agenda).2
    { later with
      fired := firedAt i (e.run prompt agenda).1 ++ later.fired
      answers := (e.answer? i agenda).toList ++ later.answers }

/-! ### Places -/

section Places

variable {agenda : Agenda α} {i j due time : Nat} {timer timer' : Timer α}
  {place : Option (Timer α)} {a : Option α} {fs gs : List (Firing α)}

lemma timer?_put_self (h : agenda.timer? i = some timer) :
    (agenda.put i place).timer? i = place := by
  obtain ⟨hlt, -⟩ := List.getElem?_eq_some_iff.mp (Option.join_eq_some_iff.mp h)
  rw [timer?, put, List.getElem?_set_self hlt, Option.join_some]

lemma timer?_put_of_ne (h : j ≠ i) : (agenda.put j place).timer? i = agenda.timer? i := by
  rw [timer?, timer?, put, List.getElem?_set_ne h]

@[simp]
lemma firedAt_append : firedAt i (fs ++ gs) = firedAt i fs ++ firedAt i gs := by
  rw [firedAt, List.filter_append, List.map_append]
  rfl

lemma firedAt_firing_self : firedAt i (firing i time a) = (a.map fun a => (time, a)).toList := by
  cases a <;> simp [firedAt, firing]

lemma firedAt_firing_of_ne (h : j ≠ i) : firedAt i (firing j time a) = [] := by
  cases a <;> simp [firedAt, firing, h]

/-- What is due is the window of a timer. -/
lemma mem_dues : (due, i) ∈ agenda.dues ↔ (agenda.timer? i).bind Timer.due? = some due := by
  rw [dues, List.mem_filterMap, timer?]
  constructor
  · rintro ⟨⟨place, k⟩, hmem, hdue⟩
    obtain ⟨t, ht, heq⟩ := Option.map_eq_some_iff.mp hdue
    cases heq
    rw [List.mem_zipIdx_iff_getElem?] at hmem
    rw [hmem]
    exact ht
  · intro hdue
    cases hplace : agenda.timers[i]? with
    | none =>
      rw [hplace] at hdue
      cases hdue
    | some place =>
      rw [hplace, Option.join_some] at hdue
      exact ⟨(place, i), List.mem_zipIdx_iff_getElem?.mpr hplace, by simp [hdue]⟩

end Places

/-! ### Weights -/

section Weights

variable {agenda : Agenda α} {i : Nat} {timer : Timer α}

/-- How many windows can still end at a place. -/
def placeWeight (place : Option (Timer α)) : Nat := (place.map Timer.weight).getD 0

lemma weight_eq_sum (agenda : Agenda α) : agenda.weight = (agenda.timers.map placeWeight).sum := by
  rw [weight, List.sum_eq_foldr, List.foldr_map]
  rfl

lemma weight_put (place : Option (Timer α)) (h : agenda.timer? i = some timer) :
    (agenda.put i place).weight + timer.weight = agenda.weight + placeWeight place := by
  obtain ⟨hlt, hget⟩ := List.getElem?_eq_some_iff.mp (Option.join_eq_some_iff.mp h)
  have hlength : i < (agenda.timers.map placeWeight).length := by rwa [List.length_map]
  have hself : (agenda.timers.map placeWeight).set i timer.weight
      = agenda.timers.map placeWeight := by
    calc (agenda.timers.map placeWeight).set i timer.weight
        = (agenda.timers.set i agenda.timers[i]).map placeWeight := by
          rw [List.map_set, hget]
          rfl
      _ = agenda.timers.map placeWeight := by rw [List.set_getElem_self]
  rw [weight_eq_sum, weight_eq_sum, ← hself, put, List.map_set, List.sum_set, List.sum_set,
    if_pos hlength, if_pos hlength]
  omega

lemma weight_put_lt {timer' : Timer α} (h : agenda.timer? i = some timer)
    (hlt : timer'.weight < timer.weight) : (agenda.put i (some timer')).weight < agenda.weight := by
  have hput := weight_put (some timer') h
  have hplace : placeWeight (some timer') = timer'.weight := rfl
  omega

lemma weight_le (h : agenda.timer? i = some timer) : timer.weight ≤ agenda.weight := by
  have hput := weight_put none h
  have hplace : placeWeight (none : Option (Timer α)) = 0 := rfl
  omega

end Weights

/-! ### Time passes -/

/-- How a place fares while time passes: each window ends when it is due, the
next one that this starts in its turn. -/
inductive Passes (time : Nat) : Option (Timer α) → List (Nat × α) → Option (Timer α) → Prop where
  | rests {place : Option (Timer α)} :
      (∀ due, place.bind Timer.due? = some due → time < due) → Passes time place [] place
  | ends {timer : Timer α} {due : Nat} {fs : List (Nat × α)} {place : Option (Timer α)} :
      timer.due? = some due → due ≤ time →
        Passes time (some (timer.expire due).2) fs place →
          Passes time (some timer) (((timer.expire due).1.map fun a => (due, a)).toList ++ fs) place

section Passing

variable {agenda : Agenda α} {i time : Nat}
  {place place' place'' : Option (Timer α)} {fs fs' : List (Nat × α)}

/-- Time leaves nothing to choose. -/
lemma Passes.unique (h : Passes time place fs place') (h' : Passes time place fs' place'') :
    fs = fs' ∧ place' = place'' := by
  induction h generalizing fs' with
  | rests hlater =>
    cases h' with
    | rests => exact ⟨rfl, rfl⟩
    | ends hdue hle => exact absurd (hlater _ hdue) (Nat.not_lt.mpr hle)
  | ends hdue hle _ ih =>
    cases h' with
    | rests hlater => exact absurd (hlater _ hdue) (Nat.not_lt.mpr hle)
    | ends hdue' _ hrest =>
      obtain rfl := Option.some.inj (hdue.symm.trans hdue')
      obtain ⟨rfl, rfl⟩ := ih hrest
      exact ⟨rfl, rfl⟩

/-- Nothing is due once time has passed. -/
lemma Passes.later (h : Passes time place fs place') :
    ∀ due, place'.bind Timer.due? = some due → time < due := by
  induction h with
  | rests hlater => exact hlater
  | ends _ _ _ ih => exact ih

lemma now_expire (i time : Nat) (agenda : Agenda α) :
    (agenda.expire i time).2.now = agenda.now := by
  rw [expire]
  split <;> rfl

lemma now_runUntil (time ends : Nat) (agenda : Agenda α) :
    (agenda.runUntil time ends).2.now = agenda.now := by
  induction ends generalizing agenda with
  | zero => rfl
  | succ ends ih =>
    rw [runUntil]
    split
    · split
      · exact (ih _).trans (now_expire _ _ _)
      · rfl
    · rfl

/-- What is due at no place before a time is not due at one of them. -/
lemma lt_of_next? (h : ∀ due j, agenda.next? = some (due, j) → time < due) :
    ∀ due, (agenda.timer? i).bind Timer.due? = some due → time < due := by
  intro due hdue
  have hmem : (due, i) ∈ agenda.dues := mem_dues.mpr hdue
  cases hnext : agenda.next? with
  | none =>
    rw [earliest?_eq_none hnext] at hmem
    cases hmem
  | some first =>
    calc time < first.1 := h first.1 first.2 hnext
      _ ≤ due := le_of_earliest? hnext (due, i) hmem

/-- While windows end one by one on an agenda, a place fares as it would on
its own. -/
theorem passes_runUntil (time i : Nat) {ends : Nat} (hends : agenda.weight ≤ ends) :
    Passes time (agenda.timer? i) (firedAt i (agenda.runUntil time ends).1)
      ((agenda.runUntil time ends).2.timer? i) := by
  induction ends generalizing agenda with
  | zero =>
    refine .rests fun due hdue => ?_
    obtain ⟨timer, htimer, hdue⟩ := Option.bind_eq_some_iff.mp hdue
    have hlt := Timer.weight_expire due hdue
    have hle := weight_le htimer
    omega
  | succ ends ih =>
    rw [runUntil]
    split
    · next due j hnext =>
      split
      · next hle =>
        -- the window that ends first is that of a timer
        obtain ⟨timer, htimer, hdue⟩ :=
          Option.bind_eq_some_iff.mp (mem_dues.mp (earliest?_mem hnext))
        have hexpire : agenda.expire j due
            = (firing j due (timer.expire due).1, agenda.put j (some (timer.expire due).2)) := by
          rw [expire, htimer]
        have hlt := weight_put_lt htimer (Timer.weight_expire due hdue)
        have hrest := ih (Nat.le_of_lt_succ (Nat.lt_of_lt_of_le hlt hends))
        simp only [hexpire, firedAt_append]
        by_cases hj : j = i
        · subst hj
          rw [timer?_put_self htimer] at hrest
          rw [firedAt_firing_self, htimer]
          exact .ends hdue hle hrest
        · rw [timer?_put_of_ne hj] at hrest
          rw [firedAt_firing_of_ne hj]
          exact hrest
      · next hle =>
        refine .rests (lt_of_next? fun due' j' hnext' => ?_)
        obtain ⟨rfl, rfl⟩ := Prod.mk.inj (Option.some.inj (hnext.symm.trans hnext'))
        exact Nat.not_le.mp hle
    · next hnext =>
      refine .rests (lt_of_next? fun due' j' hnext' => ?_)
      rw [hnext] at hnext'
      cases hnext'

end Passing

/-! ### The same wrapper on two agendas -/

/-- Two agendas have the same time, and the same wrapper, each at a place of
its own. -/
structure Agrees (i j : Nat) (agenda other : Agenda α) : Prop where
  now : agenda.now = other.now
  timer : agenda.timer? i = other.timer? j

/-- The wrapper at a place is not due yet. -/
def Settled (i : Nat) (agenda : Agenda α) : Prop :=
  ∀ due, (agenda.timer? i).bind Timer.due? = some due → agenda.now < due

/-- What an action makes of the wrapper at a place, and what it fires. -/
def outcome (now : Nat) : Timer.Action α → Option (Timer α) → Option α × Option (Timer α)
  | _, none => (none, none)
  | .call a, some timer => ((timer.call now a).1, some (timer.call now a).2)
  | .flush, some timer => (timer.flush.1, some timer.flush.2)
  | .cancel, some timer => (none, some timer.cancel)
  | .drop, some _ => (none, none)

section Agreement

variable {agenda other : Agenda α} {i j k time : Nat} {action : Timer.Action α} {e e' : Event α}
  {prompt : Bool}

lemma now_take_act : ((Event.act i action).take agenda).2.now = agenda.now := by
  cases action with
  | cancel | drop => rfl
  | call a =>
    rw [Event.take, call]
    split <;> rfl
  | flush =>
    rw [Event.take, flush]
    split <;> rfl

lemma project_act (he : (Event.act k action).project i j = some e') :
    k = i ∧ .act j action = e' := by
  obtain ⟨hk, he⟩ := Option.ite_none_right_eq_some.mp he
  exact ⟨hk, Option.some.inj he⟩

lemma timer?_put_none : (agenda.put i none).timer? i = none := by
  rw [timer?, put, List.getElem?_set_self']
  cases agenda.timers[i]? <;> rfl

/-- An action at a place depends on what is there and on the time. -/
lemma take_act_self (i : Nat) (action : Timer.Action α) (agenda : Agenda α) :
    firedAt i ((Event.act i action).take agenda).1
      = ((outcome agenda.now action (agenda.timer? i)).1.map fun a => (agenda.now, a)).toList
    ∧ ((Event.act i action).take agenda).2.timer? i
      = (outcome agenda.now action (agenda.timer? i)).2 := by
  cases htimer : agenda.timer? i with
  | none =>
    cases action with
    | call a =>
      rw [Event.take, call, htimer]
      exact ⟨rfl, htimer⟩
    | flush =>
      rw [Event.take, flush, htimer]
      exact ⟨rfl, htimer⟩
    | cancel =>
      rw [Event.take, cancel, htimer]
      exact ⟨rfl, timer?_put_none⟩
    | drop => exact ⟨rfl, timer?_put_none⟩
  | some timer =>
    cases action with
    | call a =>
      rw [Event.take, call, htimer]
      exact ⟨firedAt_firing_self, timer?_put_self htimer⟩
    | flush =>
      rw [Event.take, flush, htimer]
      exact ⟨firedAt_firing_self, timer?_put_self htimer⟩
    | cancel =>
      rw [Event.take, cancel, htimer]
      exact ⟨rfl, timer?_put_self htimer⟩
    | drop => exact ⟨rfl, timer?_put_self htimer⟩

/-- An action at another place leaves a place alone. -/
lemma take_act_of_ne (action : Timer.Action α) (agenda : Agenda α) (h : k ≠ i) :
    firedAt i ((Event.act k action).take agenda).1 = []
      ∧ ((Event.act k action).take agenda).2.timer? i = agenda.timer? i := by
  cases action with
  | call a =>
    rw [Event.take, call]
    split
    · exact ⟨firedAt_firing_of_ne h, timer?_put_of_ne h⟩
    · exact ⟨rfl, rfl⟩
  | flush =>
    rw [Event.take, flush]
    split
    · exact ⟨firedAt_firing_of_ne h, timer?_put_of_ne h⟩
    · exact ⟨rfl, rfl⟩
  | cancel | drop => exact ⟨rfl, timer?_put_of_ne h⟩

/-- Windows that end leave the same wrapper at both places. -/
lemma Agrees.runUntil (h : Agrees i j agenda other) (time : Nat) :
    firedAt i (agenda.runUntil time agenda.weight).1
        = firedAt j (other.runUntil time other.weight).1
      ∧ Agrees i j (agenda.runUntil time agenda.weight).2
        (other.runUntil time other.weight).2 := by
  have hleft := passes_runUntil time i (Nat.le_refl agenda.weight)
  have hright := passes_runUntil time j (Nat.le_refl other.weight)
  rw [← h.timer] at hright
  obtain ⟨hfired, htimer⟩ := hleft.unique hright
  exact ⟨hfired, by rw [now_runUntil, now_runUntil, h.now], htimer⟩

/-- What is done to a wrapper, or that time passes, has the same effect on both
agendas. -/
lemma Agrees.take (h : Agrees i j agenda other) (he : e.project i j = some e') :
    firedAt i (e.take agenda).1 = firedAt j (e'.take other).1
      ∧ Agrees i j (e.take agenda).2 (e'.take other).2 := by
  cases e with
  | act k action =>
    obtain ⟨rfl, rfl⟩ := project_act he
    obtain ⟨hfired, htimer⟩ := take_act_self k action agenda
    obtain ⟨hfired', htimer'⟩ := take_act_self j action other
    rw [← h.now, ← h.timer] at hfired' htimer'
    exact ⟨hfired.trans hfired'.symm, by rw [now_take_act, now_take_act, h.now],
      htimer.trans htimer'.symm⟩
  | advance span =>
    cases he
    obtain ⟨hfired, hagrees⟩ := h.runUntil (agenda.now + span)
    rw [Event.take, Event.take, advance, advance, ← h.now]
    exact ⟨hfired, rfl, hagrees.timer⟩

lemma Agrees.answer? (h : Agrees i j agenda other) (he : e.project i j = some e') :
    e.answer? i agenda = e'.answer? j other := by
  cases e with
  | act k action =>
    obtain ⟨rfl, rfl⟩ := project_act he
    cases action with
    | flush => rw [Event.answer?, Event.answer?, if_pos rfl, if_pos rfl, h.timer]
    | _ => rfl
  | advance span =>
    cases he
    rfl

/-- An event of a wrapper has the same effect on both agendas, and so do the
timers that are due then. -/
theorem Agrees.run (prompt : Bool) (h : Agrees i j agenda other) (he : e.project i j = some e') :
    firedAt i (e.run prompt agenda).1 = firedAt j (e'.run prompt other).1
      ∧ Agrees i j (e.run prompt agenda).2 (e'.run prompt other).2 := by
  obtain ⟨hfired, htaken⟩ := h.take he
  cases prompt with
  | false => exact ⟨hfired, htaken⟩
  | true =>
    obtain ⟨hsettled, hagrees⟩ := htaken.runUntil (e.take agenda).2.now
    have hrun (e : Event α) (agenda : Agenda α) : e.run true agenda
        = ((e.take agenda).1 ++ (e.take agenda).2.settle.1, (e.take agenda).2.settle.2) := rfl
    rw [hrun, hrun, settle, settle, ← htaken.now, firedAt_append, firedAt_append, hfired, hsettled]
    exact ⟨rfl, hagrees⟩

/-- Where nothing is due, windows that end by now are those of others. -/
lemma Settled.settle (h : Settled i agenda) : firedAt i agenda.settle.1 = []
    ∧ agenda.settle.2.timer? i = agenda.timer? i := by
  have hpasses := passes_runUntil agenda.now i (Nat.le_refl agenda.weight)
  obtain ⟨hfired, htimer⟩ := hpasses.unique (.rests h)
  exact ⟨hfired, htimer⟩

/-- An event of another wrapper is not noticed. -/
theorem Agrees.run_other (h : Agrees i j agenda other) (hsettled : prompt = true → Settled i agenda)
    (he : e.project i j = none) : firedAt i (e.run prompt agenda).1 = []
      ∧ e.answer? i agenda = none ∧ Agrees i j (e.run prompt agenda).2 other := by
  cases e with
  | advance span => cases he
  | act k action =>
    have hne : k ≠ i := fun hk => by simp [Event.project, hk] at he
    obtain ⟨hfired, htimer⟩ := take_act_of_ne action agenda hne
    have hanswer : (Event.act k action).answer? i agenda = none := by
      cases action with
      | flush => exact if_neg hne
      | _ => rfl
    cases prompt with
    | false => exact ⟨hfired, hanswer, now_take_act.trans h.now, htimer.trans h.timer⟩
    | true =>
      have hlater : Settled i ((Event.act k action).take agenda).2 := by
        intro due hdue
        rw [htimer] at hdue
        rw [now_take_act]
        exact hsettled rfl due hdue
      obtain ⟨hnone, hsame⟩ := hlater.settle
      refine ⟨?_, hanswer, ?_, hsame.trans (htimer.trans h.timer)⟩
      · change firedAt i (_ ++ _) = []
        rw [firedAt_append, hfired, hnone]
        rfl
      · exact (now_runUntil _ _ _).trans (now_take_act.trans h.now)

/-- On a prompt agenda nothing is due after an event. -/
lemma settled_run (i : Nat) (e : Event α) (agenda : Agenda α) :
    Settled i (e.run true agenda).2 := by
  have hpasses := passes_runUntil (e.take agenda).2.now i
    (Nat.le_refl (e.take agenda).2.weight)
  intro due hdue
  calc (e.run true agenda).2.now = (e.take agenda).2.now := now_runUntil _ _ _
    _ < due := hpasses.later due hdue

/-- The history of a wrapper is made of its own events. -/
lemma Agrees.history (h : Agrees i j agenda other) (hsettled : prompt = true → Settled i agenda)
    (es : List (Event α)) : history prompt i es agenda
      = history prompt j (es.filterMap (Event.project i j)) other := by
  induction es generalizing agenda other with
  | nil => rw [List.filterMap_nil, Agenda.history, Agenda.history, h.timer]
  | cons e es ih =>
    have hnext : prompt = true → Settled i (e.run prompt agenda).2 := by
      rintro rfl
      exact settled_run i e agenda
    rw [Agenda.history]
    cases he : e.project i j with
    | none =>
      obtain ⟨hfired, hanswer, hagrees⟩ := h.run_other hsettled he
      rw [List.filterMap_cons_none he, ← ih hagrees hnext, hfired, hanswer]
      rfl
    | some e' =>
      obtain ⟨hfired, hagrees⟩ := h.run prompt he
      rw [List.filterMap_cons_some he, Agenda.history, ← ih hagrees hnext, hfired, h.answer? he]

end Agreement

/-! ### New wrappers -/

lemma project_self (i : Nat) (es : List (Event α)) :
    es.filterMap (Event.project i i) = es.filter (Event.concerns i) := by
  rw [← List.filterMap_eq_filter]
  congr
  funext e
  cases e with
  | act k action => by_cases hk : k = i <;> simp [Event.project, Event.concerns, Option.guard, hk]
  | advance span => rfl

lemma timer?_start (wrappers : List (Timer.Kind × Nat)) (i : Fin wrappers.length) :
    (start wrappers : Agenda α).timer? i = some (Timer.new wrappers[i].2 wrappers[i].1) := by
  simp [start, timer?]

lemma settled_start (wrappers : List (Timer.Kind × Nat)) (i : Fin wrappers.length) :
    Settled i (start wrappers : Agenda α) := by
  have hdue (window : Nat) (kind : Timer.Kind) :
      (Timer.new window kind : Timer α).due? = none := by
    cases kind <;> rfl
  intro due h
  rw [timer?_start, Option.bind_some, hdue] at h
  cases h

/-- Whatever is done to other wrappers on the same clock, and whichever windows
end in between, each wrapper fires, answers and stands as if nothing were done
to the others; and so it does where it is the only one. -/
theorem history_of_own_events (prompt : Bool) (wrappers : List (Timer.Kind × Nat))
    (i : Fin wrappers.length) (es : List (Event α)) :
    history prompt i es (start wrappers)
        = history prompt i (es.filter (Event.concerns i)) (start wrappers)
      ∧ history prompt i es (start wrappers)
        = history prompt 0 (es.filterMap (Event.project i 0)) (start [wrappers[i]]) := by
  have hsettled : prompt = true → Settled i (start wrappers : Agenda α) :=
    fun _ => settled_start wrappers i
  constructor
  · rw [← project_self]
    exact Agrees.history ⟨rfl, rfl⟩ hsettled es
  · have halone : Agrees i 0 (start wrappers : Agenda α) (start [wrappers[i]]) :=
      ⟨rfl, timer?_start wrappers i⟩
    exact halone.history hsettled es

/-- Two windows that end at the same moment. -/
example : history true 1
    [.act 0 (.call 'a'), .act 1 (.call 'b'), .advance 1, .act 0 (.call 'c'), .act 1 (.call 'd'),
      .advance 2] (start [(.debounce, 2), (.rebounce, 3)])
      = ⟨[(0, 'b'), (3, 'd')], [], some false, some true⟩ := by
  decide

end Agenda

end MockupStudio
