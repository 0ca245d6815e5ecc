/-
Nothing is left of what was there before a load.

* `Facet.Idle`, `Facet.Since`: nothing is waiting in a part, or only what some
  steps have edited; such steps hand over and compile unasked only what they
  have edited (`Facet.Since.step`, `Facet.Since.fires`);
* `Preview.Alike`: previews with the same slots, program, data and timers;
  `Preview.alike_load`: loading makes them so;
* `Session.load_forgets`: in every run a load does what it does to a new
  preview with the same switches, and what was waiting does not happen, nor
  does it after closing.

A save that has been started before is still carried out.
-/
import MockupStudio.Proofs.Preview.Autosave
import MockupStudio.Proofs.Preview.Compiles
import MockupStudio.Proofs.Preview.Consumers

namespace MockupStudio

open Script

/-! ### One part -/

namespace Facet

variable {f : Facet} {stage : Stage} {s : Step} {taken : List Step}

/-- Nothing is waiting and no window is running. -/
structure Idle (f : Facet) : Prop where
  compile : f.compile.pending = none
  save : f.save.pending = none
  cooling : f.save.cooling = none

/-- What is waiting has been edited in some steps, and so was what a window was
started for. -/
structure Since (stage : Stage) (taken : List Step) (f : Facet) : Prop where
  compile : ∀ due, f.compile.due? = some due → f.autoReload = true
    ∧ ∃ now, .edit now stage f.text ∈ taken ∧ due = now + f.compile.window
  save : ∀ text, f.save.pending = some text → ∃ now, .edit now stage text ∈ taken
  cooling : f.save.isCooling → ∃ now text, .edit now stage text ∈ taken

lemma Idle.since (h : f.Idle) : f.Since stage taken where
  compile due hdue := by
    rw [Debounce.due?, h.compile] at hdue
    cases hdue
  save text htext := by
    rw [h.save] at htext
    cases htext
  cooling hcooling := by
    rw [Rebounce.isCooling, h.cooling] at hcooling
    cases hcooling

/-- The compile that was waiting is forgotten. -/
lemma Since.cancelled {g : Facet} (h : f.Since stage taken) (hcompile : g.compile.pending = none)
    (hsave : g.save = f.save) : g.Since stage taken where
  compile due hdue := by
    rw [Debounce.due?, hcompile] at hdue
    cases hdue
  save := by
    rw [hsave]
    exact h.save
  cooling := by
    rw [hsave]
    exact h.cooling

lemma Since.edited (h : f.Since stage taken) {now : Nat} {text : String}
    (hedit : .edit now stage text ∈ taken) : (f.edited now text).Since stage taken where
  compile due hdue := by
    cases hreload : f.autoReload with
    | true =>
      rw [Facet.edited, if_pos hreload] at hdue ⊢
      exact ⟨hreload, now, hedit, (Option.some.inj hdue).symm⟩
    | false =>
      -- a compile that is waiting would have the switch on
      rw [Facet.edited, if_neg (by simp [hreload])] at hdue
      have hswitched := (h.compile due hdue).1
      rw [hreload] at hswitched
      cases hswitched
  save text' htext := by
    simp only [Facet.edited, Rebounce.call] at htext
    split at htext
    · cases htext
      exact ⟨now, hedit⟩
    · exact h.save text' htext
  cooling _ := ⟨now, text, hedit⟩

/-- The end of a window of saves starts another one just if a text was
waiting. -/
lemma Since.expired (h : f.Since stage taken) (time : Nat) :
    ({ f with save := (f.save.expire time).2 } : Facet).Since stage taken where
  compile := h.compile
  save text htext := by
    simp only [Rebounce.expire] at htext
    split at htext
    · cases htext
    · next hnone =>
      rw [hnone] at htext
      cases htext
  cooling hcooling := by
    simp only [Rebounce.expire] at hcooling
    split at hcooling
    · next text hpending =>
      obtain ⟨now, hedit⟩ := h.save text hpending
      exact ⟨now, text, hedit⟩
    · cases hcooling

/-- Steps let nothing wait but what they have edited. -/
lemma Since.step (h : f.Since stage taken) (hs : s ∈ taken) :
    (f.step stage s).Since stage taken := by
  cases s with
  | load name sources =>
    have hidle : (f.step stage (.load name sources)).Idle := ⟨rfl, rfl, rfl⟩
    exact hidle.since
  | edit now t text =>
    rw [Facet.step]
    split
    · next ht =>
      subst ht
      exact h.edited hs
    · exact h
  | compileNow t =>
    rw [Facet.step]
    split
    · exact h.cancelled rfl rfl
    · exact h
  | setAutoReload t enabled =>
    rw [Facet.step]
    split
    · exact h.cancelled rfl rfl
    · exact h
  | flush =>
    have hsettled : f.settled.Since stage taken := h.cancelled rfl rfl
    exact ⟨hsettled.compile, fun text htext => (by cases htext), hsettled.cooling⟩
  | expire alarm time =>
    cases alarm with
    | compile t =>
      rw [Facet.step]
      split
      · exact h.cancelled rfl rfl
      · exact h
    | save t =>
      rw [Facet.step]
      split
      · exact h.expired time
      · exact h
  | _ => exact h

/-- Steps hand over nothing but what they have edited. -/
lemma Since.fires (h : f.Since stage taken) (hs : s ∈ taken) {text : String}
    (hfires : f.fires stage s = some text) : ∃ now, .edit now stage text ∈ taken := by
  cases s with
  | edit now t edited =>
    obtain ⟨ht, hcall⟩ := Option.ite_none_right_eq_some.mp hfires
    subst ht
    rw [Rebounce.call] at hcall
    split at hcall
    · cases hcall
    · cases hcall
      exact ⟨now, hs⟩
  | flush => exact h.save text hfires
  | expire alarm time =>
    cases alarm with
    | compile t => cases hfires
    | save t =>
      obtain ⟨-, hexpire⟩ := Option.ite_none_right_eq_some.mp hfires
      rw [Rebounce.expire] at hexpire
      split at hexpire
      · next hpending =>
        cases hexpire
        exact h.save _ hpending
      · cases hexpire
  | _ => cases hfires

lemma Since.fired {more : List Step} (h : f.Since stage taken) (hmore : more ⊆ taken) :
    ∀ text ∈ f.fired stage more, ∃ now, .edit now stage text ∈ taken := by
  induction more generalizing f with
  | nil =>
    intro text htext
    cases htext
  | cons s more ih =>
    rw [List.cons_subset] at hmore
    intro text htext
    rcases List.mem_append.mp htext with hfirst | hrest
    · exact h.fires hmore.1 (Option.mem_toList.mp hfirst)
    · exact ih (h.step hmore.1) hmore.2 text hrest

/-- Where nothing is waiting, nothing happens by itself. -/
lemma Idle.passive (h : f.Idle) (hs : s.Passive) :
    (f.step stage s).Idle ∧ f.fires stage s = none ∧ f.attempt? stage s = none := by
  have hpending : f.compile.isPending = false := by rw [Debounce.isPending, h.compile]; rfl
  have hexpire (time : Nat) : f.save.expire time = (none, { f.save with cooling := none }) := by
    rw [Rebounce.expire]
    split
    · next hsome =>
      rw [h.save] at hsome
      cases hsome
    · rfl
  cases hs with
  | expire alarm time =>
    cases alarm with
    | compile t =>
      refine ⟨?_, rfl, if_neg fun hall => ?_⟩
      · rw [Facet.step]
        split
        · exact ⟨rfl, h.save, h.cooling⟩
        · exact h
      · rw [hpending] at hall
        cases hall.2
    | save t =>
      rw [Facet.step, Facet.fires, hexpire]
      refine ⟨?_, ite_self none, rfl⟩
      split
      · exact ⟨h.compile, h.save, rfl⟩
      · exact h
  | handOver => exact ⟨h, rfl, rfl⟩
  | saved => exact ⟨h, rfl, rfl⟩

lemma Idle.nothing (h : f.Idle) (stage : Stage) (hpassive : ∀ s ∈ taken, s.Passive) :
    f.fired stage taken = [] ∧ f.attempts stage taken = [] := by
  induction taken generalizing f with
  | nil => exact ⟨rfl, rfl⟩
  | cons s taken ih =>
    rw [List.forall_mem_cons] at hpassive
    obtain ⟨hidle, hfires, hattempt⟩ : (f.step stage s).Idle ∧ f.fires stage s = none
      ∧ f.attempt? stage s = none := h.passive hpassive.1
    obtain ⟨hfired, hattempts⟩ := ih hidle hpassive.2
    rw [fired, attempts, hfires, hattempt, hfired, hattempts]
    exact ⟨rfl, rfl⟩

/-- The windows of a part stay as long as they are. -/
lemma windows_step : (f.step stage s).compile.window = f.compile.window
    ∧ (f.step stage s).save.window = f.save.window := by
  cases s with
  | edit now t text =>
    have hcompile : (f.edited now text).compile.window = f.compile.window := by
      rw [edited]
      split <;> rfl
    have hsave : (f.edited now text).save.window = f.save.window := by
      rw [edited]
      simp only [Rebounce.call]
      split <;> rfl
    rw [Facet.step]
    split
    · exact ⟨hcompile, hsave⟩
    · exact ⟨rfl, rfl⟩
  | expire alarm time =>
    cases alarm with
    | compile t =>
      rw [Facet.step]
      split <;> exact ⟨rfl, rfl⟩
    | save t =>
      have hsave : (f.save.expire time).2.window = f.save.window := by
        rw [Rebounce.expire]
        split <;> rfl
      rw [Facet.step]
      split
      · exact ⟨rfl, hsave⟩
      · exact ⟨rfl, rfl⟩
  | compileNow | setAutoReload =>
    rw [Facet.step]
    split <;> exact ⟨rfl, rfl⟩
  | _ => exact ⟨rfl, rfl⟩

lemma windows_steps : (f.steps stage taken).compile.window = f.compile.window
    ∧ (f.steps stage taken).save.window = f.save.window := by
  refine steps_induction (I := fun g => g.compile.window = f.compile.window
    ∧ g.save.window = f.save.window) ⟨rfl, rfl⟩ fun g s _ h => ?_
  have hstep : (g.step stage s).compile.window = g.compile.window
      ∧ (g.step stage s).save.window = g.save.window := windows_step
  exact ⟨hstep.1.trans h.1, hstep.2.trans h.2⟩

end Facet

/-! ### Loading -/

namespace Preview

/-- Two previews have the same name, slots, program, data and timers, and draw
from the same supply. -/
structure Alike (p q : Preview) : Prop where
  name : p.name = q.name
  slots : p.slots = q.slots
  stock : p.stock = q.stock
  compiles : p.compiles = q.compiles
  saves : p.saves = q.saves

section Load

variable {p q : Preview} (name : String) (sources : Sources) (stages : List Stage) (t : Stage)

lemma name_apply (p : Preview) : (p.apply stages).name = p.name := by
  have hname : (p.runStages stages).2.name = p.name := by
    rw [runStages_eq_withResults]
    rfl
  rw [← hname, apply_eq_if]
  split <;> rfl

lemma slot_load (p : Preview) : (p.load name sources).slot t
    = ((p.slot t).loaded (sources.get t)).concluded
        (some (p.fixed.outcome p.supply (sources.get t) t)) := slot_step p (.load name sources) t

lemma stock_load (p : Preview) : (p.load name sources).stock
    = { p.stock with program := none, data := .null, hasData := false }.concluded
        (some (produce p.settings.limits (sources.get .script) p.supply)) :=
  stock_step p (.load name sources)

/-- The parts of what is loaded are idle. -/
lemma idle_load (p : Preview) : ((p.load name sources).facet t).Idle := by
  rw [facet_load]
  exact ⟨rfl, rfl, rfl⟩

/-- Loading leaves nothing of what was there but the switches. -/
lemma alike_load (hfixed : ∀ supply text t, p.fixed.outcome supply text t
      = q.fixed.outcome supply text t)
    (hlimits : p.settings.limits = q.settings.limits) (hsupply : p.supply = q.supply)
    (hfacet : ∀ t, (p.facet t).autoReload = (q.facet t).autoReload
      ∧ (p.facet t).compile.window = (q.facet t).compile.window
      ∧ (p.facet t).save.window = (q.facet t).save.window) :
    (p.load name sources).Alike (q.load name sources) where
  name := by rw [load, name_apply, load, name_apply]
  slots := by
    refine PerStage.ext_get fun t => ?_
    have hslot : (p.load name sources).slot t = (q.load name sources).slot t := by
      have hloaded : (p.slot t).loaded (sources.get t) = (q.slot t).loaded (sources.get t) :=
        congrArg (Slot.mk _ _ _ _ _) (hfacet t).1
      rw [slot_load, slot_load, hfixed, hsupply, hloaded]
    exact hslot
  stock := by
    have hblank : { p.stock with program := none, data := .null, hasData := false }
        = { q.stock with program := none, data := .null, hasData := false } :=
      congrArg (Stock.mk none .null false) hsupply
    rw [stock_load, stock_load, hlimits, hsupply, hblank]
  compiles := by
    refine PerStage.ext_get fun t => ?_
    have hcompile : ((p.load name sources).facet t).compile
        = ((q.load name sources).facet t).compile := by
      rw [facet_load, facet_load]
      exact congrArg (Debounce.mk · none) (hfacet t).2.1
    exact hcompile
  saves := by
    refine PerStage.ext_get fun t => ?_
    have hsave : ((p.load name sources).facet t).save
        = ((q.load name sources).facet t).save := by
      rw [facet_load, facet_load]
      exact congrArg (Rebounce.mk · none none) (hfacet t).2.2
    exact hsave

/-- Compiling parts tells every consumer once, and what it shows afterwards. -/
lemma published_apply (p : Preview) : List.Forall₂
    (fun before after => after.publishes = before.publishes + 1
      ∧ after.last = some (p.apply stages).renderState) p.consumers (p.apply stages).consumers := by
  have hconsumers : (p.runStages stages).2.consumers = p.consumers := consumers_runStages p stages
  have htold : ∃ f : Consumer → Consumer, (p.apply stages).consumers = p.consumers.map f
      ∧ ∀ c, (f c).publishes = c.publishes + 1
        ∧ (f c).last = some (p.apply stages).renderState := by
    rw [apply_eq_if]
    generalize (p.runStages stages).2 = r at hconsumers
    split
    · exact ⟨fun c => ((c.publish r.renderState).deliver r.data).2,
        by rw [consumers_deliver, hconsumers], fun c => ⟨rfl, rfl⟩⟩
    · exact ⟨Consumer.publish r.renderState, by rw [publish, hconsumers], fun c => ⟨rfl, rfl⟩⟩
  obtain ⟨f, hmap, hf⟩ := htold
  rw [hmap, List.forall₂_map_right_iff, List.forall₂_same]
  exact fun c _ => hf c

lemma published_load (p : Preview) : List.Forall₂
    (fun before after => after.publishes = before.publishes + 1
      ∧ after.last = some (p.load name sources).renderState)
    p.consumers (p.load name sources).consumers := published_apply Stage.all _

/-- What is closed is idle. -/
lemma idle_close (p : Preview) : (p.close.facet t).Idle := by
  cases t <;> exact ⟨rfl, rfl, rfl⟩

/-- After a load nothing is waiting or issued that has not been edited since,
but for the saves that had been started before. -/
lemma since_load (p : Preview) (taken : List Step) (stage : Stage) :
    (((p.load name sources).steps taken).facet stage).Since stage taken
      ∧ ∃ later, textsOf stage ((p.load name sources).issued taken)
          = textsOf stage p.started ++ later
        ∧ ∀ text ∈ later, ∃ now, .edit now stage text ∈ taken := by
  have hsince : ((p.load name sources).facet stage).Since stage taken :=
    (idle_load name sources stage p).since
  refine ⟨?_, ((p.load name sources).facet stage).fired stage taken, ?_, ?_⟩
  · rw [facet_steps]
    exact Facet.steps_induction hsince fun f s hs h => h.step hs
  · rw [textsOf_issued, started_load]
  · exact hsince.fired (List.Subset.refl taken)

/-- After closing nothing is compiled, and nothing issued but the saves that had
been started before. -/
lemma nothing_of_close (p : Preview) {taken : List Step} (stage : Stage)
    (hpassive : ∀ step ∈ taken, step.Passive) :
    textsOf stage (p.close.issued taken) = textsOf stage p.started
      ∧ (p.close.facet stage).attempts stage taken = [] := by
  obtain ⟨hfired, hattempts⟩ := (idle_close stage p).nothing stage hpassive
  refine ⟨?_, hattempts⟩
  rw [textsOf_issued, hfired, List.append_nil]
  rfl

lemma fixed_steps (p : Preview) (taken : List Step) : (p.steps taken).fixed = p.fixed :=
  steps_induction (I := fun q => q.fixed = p.fixed) rfl
    (fun q step h => (fixed_step q step).trans h) taken

end Load

end Preview

/-! ### Runs -/

namespace Session

variable {σ : Type}

section Runs

variable {store : DocumentStore σ} {id : String} {settings : Settings} {supply : Supply}
  {markup style : Compiler} {contents : σ} {now : Nat} {deeds : List Deed} {t : Stage}

lemma fixed_run : ((begin id settings supply markup style contents now).run store
    deeds).preview.fixed = ⟨id, settings, markup, style⟩ := by
  rw [preview_run, Preview.fixed_steps]
  rfl

lemma windows_run :
    let f := ((begin id settings supply markup style contents now).run store deeds).preview.facet t
    f.compile.window = settings.compileDebounce ∧ f.save.window = settings.saveRebounce := by
  intro f
  have hwindows : f.compile.window = ((begin id settings supply markup style contents
        now).preview.facet t).compile.window
      ∧ f.save.window = ((begin id settings supply markup style contents
        now).preview.facet t).save.window := by
    rw [show f = _ from facet_run _]
    exact Facet.windows_steps
  rw [facet_begin] at hwindows
  exact hwindows

end Runs

/-- After every run, loading does what it does to a new preview with the same
switches and supply. It leaves nothing waiting, starts no save and tells each
consumer once what is shown afterwards. Whatever happens then, what is waiting
has been edited since, and so has been what is issued, but for the saves that
had been started before. After closing, nothing is compiled nor issued but
these. -/
theorem load_forgets (store : DocumentStore σ) (id : String) (settings : Settings)
    (supply : Supply) (markup style : Compiler) (contents : σ) (now : Nat) (deeds : List Deed)
    (name : String) (sources : Sources) :
    let p := ((begin id settings supply markup style contents now).run store deeds).preview
    let fresh := (begin id { settings with autoReload := p.slots.map Slot.autoReload } p.supply
      markup style contents now).preview
    let q := p.load name sources
    q.Alike (fresh.load name sources)
      ∧ (∀ stage, (q.facet stage).Idle)
      ∧ q.started = p.started
      ∧ List.Forall₂ (fun before after => after.publishes = before.publishes + 1
        ∧ after.last = some q.renderState) p.consumers q.consumers
      ∧ (∀ taken stage, ((q.steps taken).facet stage).Since stage taken
        ∧ ∃ later, Preview.textsOf stage (q.issued taken)
            = Preview.textsOf stage p.started ++ later
          ∧ ∀ text ∈ later, ∃ now, .edit now stage text ∈ taken)
      ∧ ∀ taken stage, (∀ step ∈ taken, step.Passive) →
        Preview.textsOf stage (p.close.issued taken) = Preview.textsOf stage p.started
          ∧ (p.close.facet stage).attempts stage taken = [] := by
  intro p fresh q
  have hfixed : p.fixed = ⟨id, settings, markup, style⟩ := fixed_run
  have hfacet (t : Stage) : (p.facet t).autoReload = (fresh.facet t).autoReload
      ∧ (p.facet t).compile.window = (fresh.facet t).compile.window
      ∧ (p.facet t).save.window = (fresh.facet t).save.window := by
    have hwindows : (p.facet t).compile.window = settings.compileDebounce
      ∧ (p.facet t).save.window = settings.saveRebounce := windows_run
    rw [hwindows.1, hwindows.2, facet_begin, PerStage.get_map]
    exact ⟨rfl, rfl, rfl⟩
  refine ⟨Preview.alike_load name sources ?_ ?_ rfl hfacet, fun t => p.idle_load name sources t,
    p.started_load name sources, p.published_load name sources, p.since_load name sources,
    fun taken t => p.nothing_of_close t⟩
  · intro supply text t
    rw [hfixed]
    cases t <;> rfl
  · exact congrArg (Fixed.settings · |>.limits) hfixed

/-- The markup of the note in a store. -/
def keptMarkup (s : Session Shelf) : Option String :=
  (Bindings.get? note.id s.contents).map fun kept => kept.sources.markup

set_option maxRecDepth 4096 in
/-- An edit is being saved when another document is loaded, or the preview is
closed: its text gets into the store all the same. -/
theorem kept_after_load :
    let s := noteSession.perform Shelf.store (.edit .markup "a")
    let loaded := s.perform Shelf.store (.load "other" ⟨"b", "", ""⟩)
    let closed := s.modify Preview.close
    loaded.keptMarkup = some "<p>" ∧ closed.keptMarkup = some "<p>"
      ∧ (loaded.perform Shelf.store (.advance default 0)).keptMarkup = some "a"
      ∧ (closed.perform Shelf.store (.advance default 0)).keptMarkup = some "a" := by
  cbv

end Session

end MockupStudio
