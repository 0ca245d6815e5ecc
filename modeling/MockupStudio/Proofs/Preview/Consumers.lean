/-
What consumers have received.

* `Consumer.Knows`, `Preview.Informs`: a consumer has the data, and was last
  told to show what is shown;
* `Preview.yields`: what the samples of some steps give; `Stock.Shareable`: no
  key comes twice in it, so every member gets to the consumers;
* `Preview.Follows`: what may be said of steps that give consumers new data or
  none; `Preview.Follows.step`: it can be said of nearly every step;
* `Preview.Tells`: from one preview to another, consumers stay informed and are
  notified a number of times; `Preview.tells_step`: of every yield once;
* `Session.informed_and_notified`: in every run each consumer is informed, and
  has been notified of every yield since it joined.
-/
import MockupStudio.Proofs.Bindings
import MockupStudio.Proofs.Preview.Outcomes
import MockupStudio.Proofs.Preview.Windows
import MockupStudio.Proofs.Script.Keys

namespace MockupStudio

open Script

/-! ### Data is received -/

/-- A consumer has the members of data that reach it. -/
def Consumer.Knows (data : Json) (c : Consumer) : Prop :=
  ∀ key value, isStateKey key → data.find? key = some value → Bindings.get? key c.state = some value

/-- Data that has no members is known to all. -/
lemma Consumer.knows_null (c : Consumer) : c.Knows .null := by
  intro key value _ hvalue
  cases hvalue

/-- Where no key comes twice, receiving data makes it known. -/
lemma Consumer.knows_receive (reception : Reception) (h : reception.data.Keyed) (c : Consumer) :
    (c.receive reception).Knows reception.data := by
  intro key value hkey hvalue
  rw [receive]
  generalize reception.data = data at h hvalue
  cases data with
  | object members =>
    cases h with
    | object hnodup _ =>
      have hfiltered : (Bindings.keys (stateMembers (.object members))).Nodup :=
        hnodup.sublist (List.filter_sublist.map _)
      have hfound : Bindings.get? key (stateMembers (.object members)) = some value := by
        rw [stateMembers, Bindings.get?_filter, if_pos hkey, Bindings.get?_eq_lookup]
        exact hvalue
      rw [Bindings.get?_insertAll hfiltered, hfound]
      rfl
  | _ => cases hvalue

/-- Data that consumers can be given: no key comes twice, and there is none
before a first sample. -/
structure Stock.Shareable (stock : Stock) : Prop where
  keyed : stock.data.Keyed
  blank : stock.hasData = false → stock.data = .null

namespace Preview

/-- A consumer is up to date. -/
structure Informs (p : Preview) (c : Consumer) : Prop where
  last : c.last = some p.renderState
  knows : c.Knows p.data

/-- The program and the data that a step makes, if it takes a sample and there
is no error. -/
def yield? (p : Preview) (step : Step) : Option (Program × Json) :=
  (p.sampled? step).bind Sampled.yield?

/-- What some steps make, one after the other. -/
def yields : Preview → List Step → List (Program × Json)
  | _, [] => []
  | p, s :: taken => (p.yield? s).toList ++ yields (p.step s) taken

/-- What a step makes is in use afterwards. But for a load, program and data stay
if it makes nothing. -/
lemma stock_of_yield? (p : Preview) (step : Step) :
    match p.yield? step with
    | some (program, data) => ∃ supply, (p.step step).stock = ⟨some program, data, true, supply⟩
    | none => ∃ supply, (p.step step).stock = { p.stock.prepared step with supply } := by
  rw [stock_step, yield?]
  rcases p.sampled? step with _ | ⟨⟨program, data⟩, supply⟩ | ⟨e, supply⟩
  · exact ⟨(p.stock.prepared step).supply, rfl⟩
  · exact ⟨supply, rfl⟩
  · exact ⟨supply, rfl⟩

/-! ### Samples have no key twice -/

section Samples

variable {p : Preview} {step : Step} {made : Program × Json} {supply supply' : Supply}

lemma keyed_produce {limits : Limits} {text : String}
    (h : produce limits text supply = .ok made supply') : made.2.Keyed :=
  Program.keyed_of_sample (produce_ok h).2

lemma keyed_sampled (h : p.sampled? step = some (.ok made supply)) : made.2.Keyed := by
  rcases Option.or_eq_some_iff.mp h with hproduce | ⟨-, hasked⟩
  · obtain ⟨text, -, hproduce⟩ := Option.map_eq_some_iff.mp hproduce
    exact keyed_produce hproduce
  · obtain ⟨program, -, -, hagain⟩ := exists_of_asked? hasked
    exact Program.keyed_of_sample (again_ok hagain).2

lemma shareable_step (h : p.stock.Shareable) (step : Step) : (p.step step).stock.Shareable := by
  have hprepared : (p.stock.prepared step).Shareable := by
    cases step with
    | load => exact ⟨.null, fun _ => rfl⟩
    | _ => exact h
  rw [stock_step]
  cases hsampled : p.sampled? step with
  | none => exact hprepared
  | some sampled =>
    cases sampled with
    | ok made supply =>
      exact ⟨keyed_sampled hsampled, fun hfalse => absurd hfalse Bool.true_eq_false.mp⟩
    | error e supply => exact ⟨hprepared.keyed, hprepared.blank⟩

end Samples

/-! ### Steps that tell consumers something -/

/-- What may be said of two previews of which the second comes from the first by
steps that give the consumers new data or none. It has to hold if nothing has
changed that they are shown, if they are told what is shown, and if they are
given data as well. -/
structure Follows (R : Option Json → Preview → Preview → Prop) : Prop where
  idle {p q : Preview} : q.consumers = p.consumers → q.notices = p.notices →
    q.renderState = p.renderState → R none p q
  published {p q : Preview} : q.consumers = p.consumers → q.notices = p.notices →
    q.data = p.data ∨ q.data = .null → R none p q.publish
  delivered {p q : Preview} {data : Json} : q.consumers = p.consumers → q.notices = p.notices →
    q.data = data → data.Keyed → R (some data) p q.publish.deliver
  before {p q r : Preview} {news : Option Json} : R none p q → R news q r → R news p r
  after {p q r : Preview} {news : Option Json} : R news p q → R none q r → R news p r

section Following

variable {R : Option Json → Preview → Preview → Prop} {p q : Preview} {stage : Stage}
  {stages : List Stage} {s : Step} {news : Option Json}

lemma consumers_runStages (p : Preview) (stages : List Stage) :
    (p.runStages stages).2.consumers = p.consumers := by
  rw [runStages_eq_withResults]
  rfl

lemma notices_runStages (p : Preview) (stages : List Stage) :
    (p.runStages stages).2.notices = p.notices := by
  rw [runStages_eq_withResults]
  rfl

/-- The yield of the script, if it is among some parts. -/
lemma Follows.apply (hR : Follows R) (hnodup : stages.Nodup)
    (hconsumers : q.consumers = p.consumers) (hnotices : q.notices = p.notices)
    (hdata : q.data = p.data ∨ q.data = .null)
    (hnews : news = (if .script ∈ stages then q.scriptRun.yield? else none).map Prod.snd) :
    R news p (q.apply stages) := by
  rw [hnews]
  have hall : (q.runStages stages).2.consumers = p.consumers :=
    (consumers_runStages q stages).trans hconsumers
  have hheld : (q.runStages stages).2.notices = p.notices :=
    (notices_runStages q stages).trans hnotices
  by_cases hscript : Stage.script ∈ stages
  · obtain ⟨hstock, hnew⟩ := stock_runStages q hnodup hscript
    have hafter : (q.runStages stages).2.data = (q.stock.concluded (some q.scriptRun)).data :=
      congrArg Stock.data hstock
    rw [apply_eq_if, if_pos hscript, hnew]
    cases hrun : q.scriptRun with
    | ok made supply =>
      rw [hrun] at hafter
      have hkeyed : made.2.Keyed := keyed_produce hrun
      exact hR.delivered hall hheld hafter hkeyed
    | error e supply =>
      rw [hrun] at hafter
      exact hR.published hall hheld (by rw [hafter]; exact hdata)
  · obtain ⟨hstock, hnew⟩ := stock_runStages_of_notMem q hscript
    have hafter : (q.runStages stages).2.data = q.data := congrArg Stock.data hstock
    rw [apply_eq_if, if_neg hscript, hnew]
    exact hR.published hall hheld (by rw [hafter]; exact hdata)

lemma Follows.apply_single (hR : Follows R) (hconsumers : q.consumers = p.consumers)
    (hnotices : q.notices = p.notices) (hdata : q.data = p.data)
    (hnews : news = (if stage = .script then q.scriptRun.yield? else none).map Prod.snd) :
    R news p (q.apply [stage]) := by
  have hmem : Stage.script ∈ [stage] ↔ stage = .script :=
    List.mem_singleton.trans ⟨Eq.symm, Eq.symm⟩
  rw [← ite_congr (propext hmem) (fun _ => rfl) fun _ => rfl] at hnews
  exact hR.apply (Stage.nodup_singleton stage) hconsumers hnotices (.inl hdata) hnews

/-- What a step yields that compiles the script on a condition. -/
lemma yield?_of_attempt? {condition : Prop} [Decidable condition]
    (hattempt : (p.facet .script).attempt? .script s
      = if condition then some p.slots.script.text else none)
    (hasked : p.asked? s = none) :
    p.yield? s = if condition then p.scriptRun.yield? else none := by
  rw [yield?, sampled?, hattempt, hasked]
  split <;> rfl

/-- A part that is compiled on a condition, nothing else being shown before. -/
lemma Follows.apply_if (hR : Follows R) {condition : Prop} [Decidable condition]
    (hconsumers : q.consumers = p.consumers) (hnotices : q.notices = p.notices)
    (hshown : q.renderState = p.renderState) (hrun : q.scriptRun = p.scriptRun)
    (hnews : news
      = (if stage = .script ∧ condition then p.scriptRun.yield? else none).map Prod.snd) :
    R news p (if condition then q.apply [stage] else q) := by
  by_cases hcondition : condition
  · have hdata : q.data = p.data := congrArg RenderState.data hshown
    rw [ite_congr (propext (and_iff_left hcondition)) (fun _ => rfl) fun _ => rfl, ← hrun] at hnews
    rw [if_pos hcondition]
    exact hR.apply_single hconsumers hnotices hdata hnews
  · rw [if_neg fun hall => hcondition hall.2] at hnews
    rw [if_neg hcondition, hnews]
    exact hR.idle hconsumers hnotices hshown

/-- The end of a compile window, or a flush of it. -/
lemma Follows.flushCompile (hR : Follows R) (p : Preview) (stage : Stage) (time : Nat) :
    R ((p.yield? (.expire (.compile stage) time)).map Prod.snd) p (p.flushCompile stage) := by
  have hyield : p.yield? (.expire (.compile stage) time)
      = if stage = .script ∧ (p.facet stage).compile.isPending then p.scriptRun.yield?
        else none := by
    refine yield?_of_attempt? ?_ rfl
    by_cases hs : stage = .script
    · subst hs
      rfl
    · simp [Facet.attempt?, hs]
  rw [hyield, flushCompile_eq]
  exact hR.apply_if rfl rfl rfl rfl rfl

/-- Of a flush only the compile of the script yields something. -/
lemma Follows.flush (hR : Follows R) (p : Preview) :
    R ((p.yield? .flush).map Prod.snd) p p.flush := by
  have hidle {q : Preview} {stage : Stage} (h : stage ≠ .script) :
      R none q (q.flushCompile stage) := by
    have hnone : q.yield? (.expire (.compile stage) 0) = none :=
      (yield?_of_attempt? rfl rfl).trans (if_neg fun hall => h hall.1)
    have hfollows := hR.flushCompile q stage 0
    rwa [hnone] at hfollows
  have hmarkup : R none p (p.flushCompile .markup) := hidle (by decide)
  have hstyle : R none p ((p.flushCompile .markup).flushCompile .style) :=
    hR.before hmarkup (hidle (by decide))
  have hsame : Same .script p ((p.flushCompile .markup).flushCompile .style) :=
    (same_flushCompile p (by decide)).trans (same_flushCompile _ (by decide))
  have hyield : ((p.flushCompile .markup).flushCompile .style).yield?
      (.expire (.compile .script) 0) = p.yield? .flush := by
    rw [yield?, yield?, ← hsame.sampled?_flush]
    simp [sampled?, Facet.attempt?, asked?]
  have hcompiles : R ((p.yield? .flush).map Prod.snd) p (Stage.all.foldl Preview.flushCompile p) :=
    hyield ▸ hR.before hstyle (hR.flushCompile _ .script 0)
  rw [Preview.flush]
  generalize Stage.all.foldl Preview.flushCompile p = q at hcompiles
  have hsaves : R none q (Stage.all.foldl flushSave q) := hR.idle rfl rfl rfl
  exact hR.after hcompiles hsaves

lemma Follows.refreshSample (hR : Follows R) (p : Preview) :
    R ((p.yield? .refreshSample).map Prod.snd) p p.refreshSample.2 := by
  rw [Preview.refreshSample, yield?]
  change R (((p.resample?).bind Sampled.yield?).map Prod.snd) p _
  rw [resample?]
  cases p.program with
  | none => exact hR.idle rfl rfl rfl
  | some program =>
    simp only [Option.map_some, again]
    cases hsample : program.sample p.supply with
    | ok data supply =>
      have hkeyed : data.Keyed := Program.keyed_of_sample hsample
      exact hR.delivered rfl rfl rfl hkeyed
    | error e supply => exact hR.published rfl rfl (.inl rfl)

/-- Every step does it, but one by which a consumer joins and those about notices
alone. -/
theorem Follows.step (hR : Follows R) (p : Preview) (hattach : ∀ consumer, s ≠ .attach consumer)
    (htaken : s ≠ .takeNotices) (hsaved : ∀ outcome, s ≠ .saved outcome) :
    R ((p.yield? s).map Prod.snd) p (p.step s) := by
  cases s with
  | load name sources =>
    exact hR.apply Stage.nodup_all rfl rfl (.inr rfl) rfl
  | edit now stage text =>
    rw [Preview.step, edit]
    have hshown : (((p.modifySlot stage (Slot.edited text)).save now stage text).renderState)
        = p.renderState := by cases stage <;> rfl
    split
    · exact hR.idle rfl rfl hshown
    · exact hR.idle rfl rfl hshown
  | compileNow stage =>
    have hyield : p.yield? (.compileNow stage)
        = if stage = .script then p.scriptRun.yield? else none := yield?_of_attempt? rfl rfl
    rw [Preview.step, compileNow_snd, hyield]
    exact hR.apply_single rfl rfl rfl rfl
  | refreshSample => exact hR.refreshSample p
  | setAutoReload stage enabled =>
    have hyield : p.yield? (.setAutoReload stage enabled)
        = if stage = .script ∧ (enabled && (p.slot stage).dirty) = true then p.scriptRun.yield?
          else none := yield?_of_attempt? (attempt_setAutoReload ..) rfl
    have hshown : ((p.modifySlot stage fun slot => { slot with autoReload := enabled
        }).cancelCompile stage).renderState = p.renderState := by cases stage <;> rfl
    rw [Preview.step, setAutoReload, hyield]
    exact hR.apply_if rfl rfl hshown (by cases stage <;> rfl) rfl
  | attach consumer => exact absurd rfl (hattach consumer)
  | takeNotices => exact absurd rfl htaken
  | saved outcome => exact absurd rfl (hsaved outcome)
  | flush => exact hR.flush p
  | expire alarm time =>
    cases alarm with
    | compile stage => exact hR.flushCompile p stage time
    | save stage => exact hR.idle rfl rfl rfl
  | rename | handOver => exact hR.idle rfl rfl rfl

end Following

/-! ### Consumers are told -/

/-- From one preview to another every consumer stays informed, and is notified
a number of times. -/
def Tells (count : Nat) (p q : Preview) : Prop :=
  ∃ f : Consumer → Consumer, q.consumers = p.consumers.map f
    ∧ ∀ c, (p.Informs c → q.Informs (f c)) ∧ (f c).notifications = c.notifications + count

section Telling

variable {p q r : Preview} {step : Step} {m n : Nat}

/-- What is shown has not changed. -/
lemma tells_of_eq (hconsumers : q.consumers = p.consumers)
    (hshown : q.renderState = p.renderState) : Tells 0 p q := by
  have hdata : q.data = p.data := congrArg RenderState.data hshown
  refine ⟨fun c => c, by rw [hconsumers, List.map_id'], fun c => ⟨fun h => ?_, rfl⟩⟩
  exact ⟨by rw [hshown]; exact h.last, by rw [hdata]; exact h.knows⟩

lemma Tells.trans (h : Tells m p q) (h' : Tells n q r) : Tells (m + n) p r := by
  obtain ⟨f, hf, htold⟩ := h
  obtain ⟨g, hg, htold'⟩ := h'
  refine ⟨g ∘ f, by rw [hg, hf, List.map_map], fun c => ⟨fun hc => ?_, ?_⟩⟩
  · exact (htold' (f c)).1 ((htold c).1 hc)
  · calc (g (f c)).notifications = (f c).notifications + n := (htold' (f c)).2
      _ = c.notifications + (m + n) := by rw [(htold c).2, Nat.add_assoc]

/-- The data is the same as before, or there is none any more. -/
lemma tells_publish (hconsumers : q.consumers = p.consumers)
    (hdata : q.data = p.data ∨ q.data = .null) : Tells 0 p q.publish := by
  refine ⟨Consumer.publish q.renderState, by rw [publish, hconsumers], fun c => ⟨fun h => ?_, rfl⟩⟩
  have hknows : c.Knows q.data := by
    rcases hdata with hsame | hnull
    · exact hsame ▸ h.knows
    · exact hnull ▸ c.knows_null
  exact ⟨rfl, hknows⟩

lemma consumers_deliver (p : Preview) : p.publish.deliver.consumers
    = p.consumers.map fun c => ((c.publish p.renderState).deliver p.data).2 := by
  simp only [deliver, publish, List.map_map]
  rfl

/-- There is new data. -/
lemma tells_deliver (hconsumers : q.consumers = p.consumers) (hkeyed : q.data.Keyed) :
    Tells 1 p q.publish.deliver := by
  refine ⟨fun c => ((c.publish q.renderState).deliver q.data).2, ?_, fun c => ⟨fun _ => ?_, rfl⟩⟩
  · rw [consumers_deliver, hconsumers]
  · exact ⟨rfl, Consumer.knows_receive (.new q.data) hkeyed _⟩

/-- Steps keep consumers informed and notify them of new data. -/
lemma tells_follows : Follows fun news => Tells news.toList.length where
  idle hconsumers _ hshown := tells_of_eq hconsumers hshown
  published hconsumers _ hdata := tells_publish hconsumers hdata
  delivered hconsumers _ hdata hkeyed := tells_deliver hconsumers (hdata ▸ hkeyed)
  before h h' := by
    have htells := h.trans h'
    rwa [Option.toList_none, List.length_nil, Nat.zero_add] at htells
  after h h' := h.trans h'

/-- Every step but a joining keeps consumers informed and notifies them just of
what it yields. -/
theorem tells_step (p : Preview) (h : ∀ consumer, step ≠ .attach consumer) :
    Tells (p.yield? step).toList.length p (p.step step) := by
  cases step with
  | takeNotices => exact tells_of_eq rfl rfl
  | saved outcome => cases outcome <;> exact tells_of_eq rfl rfl
  | _ =>
    have htells := tells_follows.step p h (by simp) (by simp)
    rwa [Option.toList_map, List.length_map] at htells

/-- One that joins is told what is shown and given the data there is. -/
lemma consumers_attach (h : p.stock.Shareable) (consumer : Consumer) :
    ∃ joined, (p.step (.attach consumer)).consumers = p.consumers ++ [joined]
      ∧ p.Informs joined ∧ joined.notifications = consumer.notifications := by
  rw [Preview.step, attach]
  split
  · exact ⟨_, rfl, ⟨rfl, Consumer.knows_receive (.joining p.data) h.keyed _⟩, rfl⟩
  · next hnone =>
    have hdata : p.data = .null := h.blank (Bool.eq_false_iff.mpr hnone)
    exact ⟨_, rfl, ⟨rfl, hdata ▸ Consumer.knows_null _⟩, rfl⟩

lemma renderState_attach (consumer : Consumer) :
    (p.step (.attach consumer)).renderState = p.renderState := by
  rw [Preview.step, attach]
  split <;> rfl

end Telling

/-! ### Many steps -/

/-- Every consumer is informed, and those that join can be. -/
structure Informed (p : Preview) : Prop where
  shareable : p.stock.Shareable
  informs : ∀ c ∈ p.consumers, p.Informs c

/-- No step leaves a consumer behind. -/
theorem Informed.step {p : Preview} (h : p.Informed) (step : Step) : (p.step step).Informed where
  shareable := shareable_step h.shareable step
  informs := by
    by_cases hattach : ∃ consumer, step = .attach consumer
    · obtain ⟨consumer, rfl⟩ := hattach
      obtain ⟨joined, hconsumers, hjoined, -⟩ := consumers_attach h.shareable consumer
      have hshown := renderState_attach (p := p) consumer
      have hdata : (p.step (.attach consumer)).data = p.data := congrArg RenderState.data hshown
      intro c hc
      have hinforms : p.Informs c := by
        rw [hconsumers, List.mem_append, List.mem_singleton] at hc
        rcases hc with hc | rfl
        · exact h.informs c hc
        · exact hjoined
      exact ⟨by rw [hshown]; exact hinforms.last, by rw [hdata]; exact hinforms.knows⟩
    · obtain ⟨f, hconsumers, htold⟩ := tells_step p fun consumer hs => hattach ⟨consumer, hs⟩
      intro c hc
      rw [hconsumers] at hc
      obtain ⟨c, hmem, rfl⟩ := List.mem_map.mp hc
      exact (htold c).1 (h.informs c hmem)

lemma Informed.steps {p : Preview} (h : p.Informed) (taken : List Step) :
    (p.steps taken).Informed := steps_induction h (fun _ step h => h.step step) taken

lemma Informed.notified_step {p : Preview} (h : p.Informed) (step : Step) {place : Nat}
    {c : Consumer} (hc : p.consumers[place]? = some c) :
    ∃ c', (p.step step).consumers[place]? = some c'
      ∧ c'.notifications = c.notifications + (p.yield? step).toList.length := by
  by_cases hattach : ∃ consumer, step = .attach consumer
  · -- those that join do so after the others, and nothing is yielded
    obtain ⟨consumer, rfl⟩ := hattach
    obtain ⟨joined, hconsumers, -, -⟩ := consumers_attach h.shareable consumer
    refine ⟨c, ?_, rfl⟩
    rw [hconsumers, List.getElem?_append_left (List.getElem?_eq_some_iff.mp hc).1]
    exact hc
  · obtain ⟨f, hconsumers, htold⟩ := tells_step p fun consumer hs => hattach ⟨consumer, hs⟩
    refine ⟨f c, ?_, (htold c).2⟩
    rw [hconsumers, List.getElem?_map, hc]
    rfl

/-- A consumer keeps its place, and has been notified of what steps yield. -/
lemma Informed.notified {p : Preview} (h : p.Informed) (taken : List Step) {place : Nat}
    {c : Consumer} (hc : p.consumers[place]? = some c) :
    ((p.steps taken).consumers[place]?).map Consumer.notifications
      = some (c.notifications + (p.yields taken).length) := by
  induction taken generalizing p c with
  | nil => rw [Preview.steps_nil, hc]; rfl
  | cons step taken ih =>
    obtain ⟨c', hc', hcount⟩ := h.notified_step step hc
    rw [Preview.steps_cons, ih (h.step step) hc', hcount, yields, List.length_append, Nat.add_assoc]

lemma length_consumers_steps (p : Preview) {taken : List Step}
    (h : ∀ step ∈ taken, ∀ consumer, step ≠ .attach consumer) :
    (p.steps taken).consumers.length = p.consumers.length := by
  induction taken generalizing p with
  | nil => rfl
  | cons step taken ih =>
    obtain ⟨f, hconsumers, -⟩ := tells_step p (h step List.mem_cons_self)
    rw [steps_cons, ih _ fun step hs => h step (List.mem_cons_of_mem _ hs), hconsumers,
      List.length_map]

end Preview

/-! ### Runs -/

/-- Whether a consumer joins. -/
def Deed.joins : Deed → Bool
  | .attach _ => true
  | _ => false

namespace Session

variable {σ : Type} {store : DocumentStore σ}

lemma ne_attach_of_joins {s : Session σ} {deed : Deed} (hdeed : deed.joins = false) {step : Step}
    (h : step ∈ s.steps store deed) (consumer : Consumer) : step ≠ .attach consumer := by
  rintro rfl
  cases deed with
  | attach => cases hdeed
  | openDocument =>
    simp only [steps] at h
    split at h
    · cases List.mem_singleton.mp h
    · cases h
  | rename =>
    simp only [steps] at h
    split at h
    · cases List.mem_singleton.mp h
    · cases h
  | save => cases h
  | flush moment =>
    rcases List.mem_cons.mp h with h | h
    · cases h
    · cases passive_of_carry h
  | advance moment span => cases passive_of_advance h
  | _ => cases List.mem_singleton.mp h

/-- Consumers are added by joining only. -/
lemma length_consumers_perform (s : Session σ) (deed : Deed) :
    (s.perform store deed).preview.consumers.length
      = s.preview.consumers.length + if deed.joins then 1 else 0 := by
  by_cases hjoins : deed.joins = true
  · cases deed with
    | attach consumer =>
      simp only [perform, modify, Preview.attach]
      split <;> simp
    | _ => cases hjoins
  · rw [if_neg hjoins, preview_perform]
    exact Preview.length_consumers_steps _ fun step hs =>
      ne_attach_of_joins (Bool.eq_false_iff.mpr hjoins) hs

lemma length_consumers_run (s : Session σ) (deeds : List Deed) :
    (s.run store deeds).preview.consumers.length
      = s.preview.consumers.length + deeds.countP Deed.joins := by
  induction deeds generalizing s with
  | nil => rfl
  | cons deed deeds ih =>
    rw [run_cons, ih, length_consumers_perform, List.countP_cons, Nat.add_assoc,
      Nat.add_comm (ite ..)]

lemma informed_begin (id : String) (settings : Settings) (supply : Supply)
    (markup style : Compiler) (contents : σ) (now : Nat) :
    (begin id settings supply markup style contents now).preview.Informed where
  shareable := ⟨.null, fun _ => rfl⟩
  informs _ hc := (List.not_mem_nil hc).elim

/-- After every run, and after any steps whatever, each consumer is up to date;
there are those that have joined, and each has been notified once of everything
the steps since have yielded. What a step yields is the data afterwards, and
without a yield the data stays but for a load. -/
theorem informed_and_notified (store : DocumentStore σ) (id : String) (settings : Settings)
    (supply : Supply) (markup style : Compiler) (contents : σ) (now : Nat) :
    let s := begin id settings supply markup style contents now
    (∀ deeds, ∀ c ∈ (s.run store deeds).preview.consumers, (s.run store deeds).preview.Informs c)
      ∧ (∀ taken, ∀ c ∈ (s.preview.steps taken).consumers, (s.preview.steps taken).Informs c)
      ∧ (∀ deeds, (s.run store deeds).preview.consumers.length = deeds.countP Deed.joins)
      ∧ (∀ before consumer after,
        let joined := s.run store (before ++ [.attach consumer])
        ((joined.run store after).preview.consumers[before.countP Deed.joins]?).map
            Consumer.notifications
          = some (consumer.notifications
            + (joined.preview.yields (joined.runSteps store after)).length))
      ∧ ∀ taken step, let p := s.preview.steps taken
        match p.yield? step with
        | some (program, data) => ∃ supply, (p.step step).stock = ⟨some program, data, true, supply⟩
        | none => ∃ supply, (p.step step).stock = { p.stock.prepared step with supply } := by
  intro s
  have hbegin : s.preview.Informed := informed_begin id settings supply markup style contents now
  have hlength (deeds : List Deed) :
      (s.run store deeds).preview.consumers.length = deeds.countP Deed.joins :=
    (length_consumers_run s deeds).trans (Nat.zero_add _)
  have hrun (deeds : List Deed) : (s.run store deeds).preview.Informed :=
    @preview_run σ store s deeds ▸ hbegin.steps _
  refine ⟨fun deeds => (hrun deeds).informs, fun taken => (hbegin.steps taken).informs, hlength,
    fun before consumer after => ?_, fun taken => (s.preview.steps taken).stock_of_yield?⟩
  intro joined
  obtain ⟨c, hconsumers, -, hcount⟩ :=
    Preview.consumers_attach (hrun before).shareable consumer
  have hjoined : joined.preview = (s.run store before).preview.step (.attach consumer) :=
    congrArg Session.preview (run_append store s before [.attach consumer])
  have hplace : joined.preview.consumers[before.countP Deed.joins]? = some c := by
    rw [hjoined, hconsumers, ← hlength before, List.getElem?_concat_length]
  rw [preview_run, (hrun _).notified _ hplace, hcount]

end Session

end MockupStudio
