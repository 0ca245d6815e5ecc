/-
The evaluator gives what a run comes to step by step.

The evaluator is told how many statements and expressions may be open inside
one another, and how many turns a loop may take. The steps of a run know no
such bound, so that they come to an end at all is a fact about the limits of
the script.

* `Run.Leads`: a moment is reached from another one;
* `Performs`: begun when so many steps have been counted, or more, a part of
  a run is led to the outcome that it has in the evaluator;
* `performsAll`: so it is for expressions and statements if the depth that is
  allowed makes up for the steps not counted yet, by induction on that depth;
* `leads_ended`: a script is led to its end.
-/
import MockupStudio.Proofs.Script.Counters

namespace MockupStudio.Script

/-! ### Being led somewhere -/

/-- Some number of steps leads from a moment to another one. -/
def Run.Leads (run : Run) (c c' : Moment) : Prop := ∃ n, run.after n c = c'

section Leads

variable {run : Run} {c c' c'' : Moment}

lemma after_of_step_none (h : run.step? c = none) (n : Nat) : run.after n c = c := by
  cases n with
  | zero => rfl
  | succ n => simp only [Run.after, h]

lemma after_add (n k : Nat) (c : Moment) : run.after (n + k) c = run.after k (run.after n c) := by
  induction n generalizing c with
  | zero => rw [Nat.zero_add, Run.after]
  | succ n ih =>
    rw [Nat.succ_add, Run.after, Run.after]
    cases h : run.step? c with
    | none => exact (after_of_step_none h k).symm
    | some c' => exact ih c'

lemma Run.Leads.refl (c : Moment) : run.Leads c c := ⟨0, rfl⟩

lemma Run.Leads.trans (h : run.Leads c c') (h' : run.Leads c' c'') : run.Leads c c'' := by
  obtain ⟨n, rfl⟩ := h
  obtain ⟨k, rfl⟩ := h'
  exact ⟨n + k, after_add n k c⟩

lemma leads_step (h : run.step? c = some c') : run.Leads c c' :=
  ⟨1, by simp only [Run.after, h]⟩

/-- Whether a task asks for the outcome of an expression or a statement. -/
def Task.asks : Task → Bool
  | .evaluate _ | .execute .. => true
  | _ => false

/-- What comes out of an expression or a statement comes out after a step, and
within the limit. -/
lemma steps_of_leads {task task' : Task} {m m' : Machine} {k k' : List Frame}
    (h : run.Leads ⟨task, m, k⟩ ⟨task', m', k'⟩) (htask : task.asks) (hout : task'.comesOut)
    (hsteps : m.steps ≤ run.limits.maxSteps) :
    m.steps < m'.steps ∧ m'.steps ≤ run.limits.maxSteps := by
  obtain ⟨n, hn⟩ := h
  have hbegun := begun_le_after run n ⟨task, m, k⟩
  have hinStep : Moment.InStep run ⟨task, m, k⟩ := by
    refine .of_le hsteps ?_
    rintro n rfl
    cases htask
  have hinStep := hinStep.after n
  have hin : task.comesOut = false := by
    cases task with
    | evaluate | execute => rfl
    | _ => cases htask
  rw [hn] at hbegun hinStep
  simp only [Moment.begun, hin, hout] at hbegun
  have hlt : m.steps + 1 ≤ m'.steps := by simpa using hbegun
  refine ⟨hlt, hinStep.within ?_⟩
  rintro n rfl
  cases hout

/-- An outcome with a frame closed. -/
def Frame.closing (frame : Frame) :
    EStateM.Result RuntimeError Machine α → EStateM.Result RuntimeError Machine α
  | .ok a m => .ok a (frame.close m)
  | .error e m => .error e (frame.close m)

lemma leads_fail (frame : Frame) (e : RuntimeError) (m : Machine) (k : List Frame) :
    run.Leads ⟨.fail e, m, frame :: k⟩ ⟨.fail e, frame.close m, k⟩ :=
  leads_step rfl

/-- Some frames only wait to be closed. -/
lemma leads_closing (run : Run) (frame : Frame) (done : α → Task) (k : List Frame)
    (h : ∀ a m, run.step? ⟨done a, m, frame :: k⟩ = some ⟨done a, frame.close m, k⟩)
    (r : EStateM.Result RuntimeError Machine α) :
    run.Leads (.settled done (frame :: k) r) (.settled done k (frame.closing r)) := by
  cases r with
  | ok a m => exact leads_step (h a m)
  | error e m => exact leads_fail frame e m k

end Leads

/-! ### Parts of a run -/

/-- Begun over any frames after so many steps or more, but within the limit, a
part of a run is led to the outcome that it has in the evaluator. -/
def Performs (run : Run) (least : Nat) (start : Machine → List Frame → Moment) (done : α → Task)
    (part : Eval α) : Prop :=
  ∀ m k, least ≤ m.steps → m.steps ≤ run.limits.maxSteps →
    run.Leads (start m k) (.settled done k (part m))

/-- All expressions and statements are performed to a depth. -/
structure PerformsAll (run : Run) (least depth : Nat) : Prop where
  expression : ∀ e, Performs run least (fun m k => ⟨.evaluate e, m, k⟩) .give
    (run.evaluate depth e)
  statement : ∀ place s, Performs run least (fun m k => ⟨.execute place s, m, k⟩) .finish
    (run.execute depth place s)

section Parts

variable {run : Run} {least depth : Nat} {α β : Type}
  {start start' : Machine → List Frame → Moment} {done : α → Task} {done' : β → Task}
  {part : Eval α} {frame : Frame} {task : Task} {e : Expr}

lemma performs_settled (h : ∀ m k, start m k = .settled done k (part m)) :
    Performs run least start done part :=
  fun m k _ _ => h m k ▸ .refl _

lemma Performs.mono {more : Nat} (h : Performs run least start done part) (hle : least ≤ more) :
    Performs run more start done part :=
  fun m k hmore hsteps => h m k (Nat.le_trans hle hmore) hsteps

lemma PerformsAll.mono {more : Nat} (h : PerformsAll run least depth) (hle : least ≤ more) :
    PerformsAll run more depth :=
  ⟨fun e => (h.expression e).mono hle, fun place s => (h.statement place s).mono hle⟩

lemma Performs.step (start' : Machine → List Frame → Moment)
    (hstep : ∀ m k, run.step? (start m k) = some (start' m k))
    (h : Performs run least start' done part) : Performs run least start done part :=
  fun m k hleast hsteps => (leads_step (hstep m k)).trans (h m k hleast hsteps)

/-- What comes out of an expression or a statement goes to the frame that
waits for it, at least one step later. -/
lemma Performs.bindLater {next : α → Eval β}
    (h : Performs run least (fun m k => ⟨task, m, k⟩) done part) (htask : task.asks)
    (hdone : ∀ a, (done a).comesOut) (hframe : ∀ m, frame.close m = m)
    (hnext : ∀ a, Performs run (least + 1) (fun m k => ⟨done a, m, frame :: k⟩) done' (next a)) :
    Performs run least (fun m k => ⟨task, m, frame :: k⟩) done' (part >>= next) := by
  intro m k hleast hsteps
  have hpart := h m (frame :: k) hleast hsteps
  simp only [Bind.bind, EStateM.bind]
  generalize part m = r at hpart ⊢
  cases r with
  | error fault m' =>
    have hclose : run.Leads ⟨.fail fault, m', frame :: k⟩ ⟨.fail fault, frame.close m', k⟩ :=
      leads_fail frame fault m' k
    rw [hframe] at hclose
    exact hpart.trans hclose
  | ok a m' =>
    obtain ⟨hlt, hle⟩ := steps_of_leads hpart htask (hdone a) hsteps
    exact hpart.trans (hnext a m' k (by omega) hle)

/-- The value of an expression goes to the frame that waits for it. -/
lemma PerformsAll.bind (h : PerformsAll run least depth) {next : Value → Eval α}
    (hframe : ∀ m, frame.close m = m)
    (hnext : ∀ v, Performs run least (fun m k => ⟨.give v, m, frame :: k⟩) done (next v)) :
    Performs run least (fun m k => ⟨.evaluate e, m, frame :: k⟩) done
      (run.evaluate depth e >>= next) :=
  (h.expression e).bindLater rfl (fun _ => rfl) hframe fun v => (hnext v).mono (Nat.le_succ _)

/-- A step is counted before an expression or a statement begins. -/
lemma Performs.counted (start : Machine → List Frame → Moment)
    (hstep : ∀ m k, run.step? ⟨task, m, k⟩ = match run.tick m with
      | .ok _ m => some (start m k)
      | .error fault m => some ⟨.fail fault, m, k⟩)
    (h : Performs run (least + 1) start done part) :
    Performs run least (fun m k => ⟨task, m, k⟩) done (run.tick >>= fun _ => part) := by
  intro m k hleast hsteps
  have hstep := hstep m k
  have htick := ticks run m
  simp only [Bind.bind, EStateM.bind]
  generalize run.tick m = r at hstep htick ⊢
  cases htick with
  | error hle => exact leads_step hstep
  | ok hlt => exact (leads_step hstep).trans (h _ k (Nat.succ_le_succ hleast) hlt)

/-- An expression is let in, or refused. -/
lemma Performs.deeper {part : Eval Value}
    (h : Performs run least (fun m k => ⟨.enter e, m, k⟩) .give part) :
    Performs run least (fun m k => ⟨.evaluate e, m, k⟩) .give (run.deeper part) := by
  intro m k hleast hsteps
  rw [Run.deeper]
  split
  · next hle => exact leads_step (by rw [Run.step?, if_pos hle]; rfl)
  · next hlt =>
    have hletIn : run.Leads ⟨.evaluate e, m, k⟩
        ⟨.enter e, { m with evalDepth := m.evalDepth + 1 }, .expression :: k⟩ :=
      leads_step (by rw [Run.step?, if_neg hlt])
    have hpart := h { m with evalDepth := m.evalDepth + 1 } (.expression :: k) hleast hsteps
    have hclosing := leads_closing run .expression .give k (fun _ _ => rfl)
      (part { m with evalDepth := m.evalDepth + 1 })
    refine (hletIn.trans hpart).trans ?_
    generalize part { m with evalDepth := m.evalDepth + 1 } = r at hclosing ⊢
    cases r <;> exact hclosing

/-- A part is performed in a scope of its own. -/
lemma Performs.inScope {part : Eval Flow} (h : Performs run least start .finish part) :
    Performs run least (fun m k => start { m with scopes := [] :: m.scopes } (.scope :: k))
      .finish (Run.inScope part) := by
  intro m k hleast hsteps
  have hpart := h { m with scopes := [] :: m.scopes } (.scope :: k) hleast hsteps
  have hclosing := leads_closing run .scope .finish k (fun _ _ => rfl)
    (part { m with scopes := [] :: m.scopes })
  refine hpart.trans ?_
  rw [Run.inScope]
  generalize part { m with scopes := [] :: m.scopes } = r at hclosing ⊢
  cases r <;> exact hclosing

/-! ### Sequences and loops -/

lemma sequence_cons (exec : List Nat → Stmt → Eval Flow) (place : List Nat) (i : Nat)
    (last : Value) (s : Stmt) (rest : List Stmt) :
    Run.sequence exec place i last (s :: rest) = exec (i :: place) s >>= fun flow =>
      match flow with
      | .normal v => Run.sequence exec place (i + 1) v rest
      | flow => pure flow := by
  funext m
  simp only [Run.sequence, Bind.bind, EStateM.bind]
  generalize exec (i :: place) s m = r
  cases r with
  | ok flow m => cases flow <;> rfl
  | error fault m => rfl

lemma performs_sequence (h : PerformsAll run least depth) (place : List Nat) (i : Nat)
    (last : Value) (body : List Stmt) :
    Performs run least (fun m k => ⟨.finish (.normal last), m, .sequel place i body :: k⟩) .finish
      (Run.sequence (run.execute depth) place i last body) := by
  induction body generalizing i last with
  | nil => exact fun m k _ _ => leads_step rfl
  | cons s rest ih =>
    rw [sequence_cons]
    refine .step _ (fun _ _ => rfl) ?_
    refine ((h.statement (i :: place) s).bindLater rfl (fun _ => rfl) (fun _ => rfl)
      fun flow => ?_)
    cases flow with
    | normal v => exact (ih (i + 1) v).mono (Nat.le_succ _)
    | _ => exact fun m k _ _ => leads_step rfl

lemma whileLoop_succ (condition : Eval Value) (body : Eval Flow) (turns : Nat) :
    run.whileLoop condition body (turns + 1) = condition >>= fun v =>
      if v.truthy then
        body >>= fun flow =>
          match flow with
          | .leftLoop => pure (.normal .null)
          | .returned v => pure (.returned v)
          | _ => run.whileLoop condition body turns
      else pure (.normal .null) := by
  funext m
  simp only [Run.whileLoop, Bind.bind, EStateM.bind]
  generalize condition m = r
  cases r with
  | error fault m => rfl
  | ok v m =>
    dsimp only
    split
    · simp only [EStateM.bind]
      generalize body m = r
      cases r with
      | ok flow m => cases flow <;> rfl
      | error fault m => rfl
    · rfl

/-- Every turn counts a step, so there are turns enough for the steps that are
left. -/
lemma performs_whileLoop (h : PerformsAll run least depth) (place : List Nat) (condition : Expr)
    (body : List Stmt) {turns : Nat} (hturns : run.limits.maxSteps < turns + least) :
    Performs run least (fun m k => ⟨.evaluate condition, m, .condition place condition body :: k⟩)
      .finish (run.whileLoop (run.evaluate depth condition)
        (run.execute depth place (.block body)) turns) := by
  induction turns generalizing least with
  | zero =>
    intro m k hleast hsteps
    omega
  | succ turns ih =>
    rw [whileLoop_succ]
    refine (h.expression condition).bindLater rfl (fun _ => rfl) (fun _ => rfl) fun v => ?_
    have hlater := h.mono (Nat.le_succ least)
    by_cases hv : v.truthy
    · simp only [hv, if_true]
      refine .step (fun m k =>
        ⟨.execute place (.block body), m, .turn place condition body :: k⟩) ?_ ?_
      · exact fun m k => by simp [Run.step?, Run.take?, hv]
      refine (hlater.statement place (.block body)).bindLater rfl (fun _ => rfl) (fun _ => rfl)
        fun flow => ?_
      have hagain := (ih hlater (by omega)).mono (Nat.le_succ _)
      cases flow with
      | normal v => exact .step _ (fun _ _ => rfl) hagain
      | nextTurn => exact .step _ (fun _ _ => rfl) hagain
      | returned v => exact fun m k _ _ => leads_step rfl
      | leftLoop => exact fun m k _ _ => leads_step rfl
    · simp only [hv]
      exact fun m k _ _ => leads_step (by simp [Run.step?, Run.take?, hv]; rfl)

lemma eachLoop_cons (item : String) (body : Eval Flow) (v : Value) (rest : List Value) :
    Run.eachLoop item body (v :: rest) = Run.define item v >>= fun _ => body >>= fun flow =>
      match flow with
      | .leftLoop => pure (.normal .null)
      | .returned v => pure (.returned v)
      | _ => Run.eachLoop item body rest := by
  funext m
  simp only [Run.eachLoop, Run.define, Bind.bind, EStateM.bind]
  generalize body _ = r
  cases r with
  | ok flow m => cases flow <;> rfl
  | error fault m => rfl

/-- Whether a loop goes on after a turn. -/
def Flow.goesOn : Flow → Bool
  | .normal _ | .nextTurn => true
  | .returned _ | .leftLoop => false

lemma performs_eachLoop (h : PerformsAll run least depth) (place : List Nat) (item : String)
    (body : List Stmt) (items : List Value) (flow : Flow) (hflow : flow.goesOn) :
    Performs run least (fun m k => ⟨.finish flow, m, .each place item body items :: k⟩) .finish
      (Run.eachLoop item (run.execute depth place (.block body)) items) := by
  induction items generalizing flow least with
  | nil =>
    cases flow with
    | normal | nextTurn => exact fun m k _ _ => leads_step rfl
    | returned | leftLoop => cases hflow
  | cons v items ih =>
    have hbody : Performs run least
        (fun m k => ⟨.execute place (.block body), m, .each place item body items :: k⟩) .finish
        (run.execute depth place (.block body) >>= fun flow =>
          match flow with
          | .leftLoop => pure (.normal .null)
          | .returned v => pure (.returned v)
          | _ => Run.eachLoop item (run.execute depth place (.block body)) items) := by
      refine (h.statement place (.block body)).bindLater rfl (fun _ => rfl) (fun _ => rfl)
        fun flow => ?_
      cases flow with
      | normal | nextTurn => exact ih (h.mono (Nat.le_succ _)) _ rfl
      | returned | leftLoop => exact fun m k _ _ => leads_step rfl
    rw [eachLoop_cons]
    intro m k hleast hsteps
    have hbody := hbody { m with scopes := Script.define item v m.scopes } k hleast hsteps
    cases flow with
    | normal | nextTurn => exact (leads_step rfl).trans hbody
    | returned | leftLoop => cases hflow

/-! ### Calls and lists -/

lemma performs_call (h : PerformsAll run least depth) (f : Value) (arguments : List Value) :
    Performs run least (fun m k => run.call f arguments m k) .give
      (run.apply (run.execute depth) f arguments) := by
  cases f with
  | function name parameters body captured id =>
    intro m k hleast hsteps
    dsimp only
    rw [Run.call, Run.apply_function]
    split
    · exact .refl _
    · split
      · exact .refl _
      · have hbody := performs_sequence h (Run.bodyPlace id) 0 .null body
          ⟨Run.callScopes (.function name parameters body captured id) name parameters captured
            arguments, m.steps, m.callDepth + 1, 0⟩
          (.caller m.scopes m.evalDepth :: k) hleast hsteps
        refine hbody.trans ?_
        rw [Run.inCall]
        generalize Run.sequence _ _ _ _ _ _ = r
        cases r with
        | ok flow m' => exact leads_step rfl
        | error fault m' => exact leads_fail _ fault m' k
  | _ => exact performs_settled fun _ _ => rfl

/-- The expressions of a list are performed one after the other, before what
is done with their values. -/
lemma PerformsAll.mapM (h : PerformsAll run least depth) {γ : Type}
    (left : List α → List γ → Machine → List Frame → Moment) (last : List α → Eval Value)
    (expr : γ → Expr) (entry : γ → Value → α) (frame : List α → γ → List γ → Frame)
    {part : γ → Eval α}
    (hpart : ∀ c, part c = run.evaluate depth (expr c) >>= fun v => pure (entry c v))
    (hnil : ∀ done, Performs run least (left done []) .give (last done))
    (hcons : ∀ done c rest m k,
      left done (c :: rest) m k = ⟨.evaluate (expr c), m, frame done c rest :: k⟩)
    (hclose : ∀ done c rest m, (frame done c rest).close m = m)
    (htake : ∀ done c rest v m k,
      run.take? v m k (frame done c rest) = some (left (done ++ [entry c v]) rest m k))
    (done : List α) (rest : List γ) :
    Performs run least (left done rest) .give
      (rest.mapM part >>= fun more => last (done ++ more)) := by
  induction rest generalizing done with
  | nil =>
    rw [List.mapM_nil, pure_bind, List.append_nil]
    exact hnil done
  | cons c rest ih =>
    have hstart : left done (c :: rest) =
        fun m k => ⟨.evaluate (expr c), m, frame done c rest :: k⟩ :=
      funext fun m => funext (hcons done c rest m)
    rw [hstart, List.mapM_cons, hpart]
    simp only [bind_assoc, pure_bind]
    refine h.bind (hclose done c rest) fun v => .step _ (htake done c rest v) ?_
    have hrest := ih (done ++ [entry c v])
    simpa only [List.append_assoc, List.singleton_append] using hrest

lemma performs_argumentsLeft (h : PerformsAll run least depth) (f : Value)
    (arguments : List Expr) :
    Performs run least (fun m k => run.argumentsLeft f [] arguments m k) .give
      (arguments.mapM (run.evaluate depth) >>= run.apply (run.execute depth) f) :=
  h.mapM (run.argumentsLeft f) (run.apply (run.execute depth) f) (fun e => e) (fun _ v => v)
    (fun done _ rest => .argument f done rest)
    (fun _ => (bind_pure _).symm) (performs_call h f) (fun _ _ _ _ _ => rfl)
    (fun _ _ _ _ => rfl) (fun _ _ _ _ _ _ => rfl) [] arguments

lemma performs_itemsLeft (h : PerformsAll run least depth) (items : List Expr) :
    Performs run least (fun m k => run.itemsLeft [] items m k) .give
      (items.mapM (run.evaluate depth) >>= fun vs => run.bounded (.array vs)) :=
  h.mapM run.itemsLeft (fun vs => run.bounded (.array vs)) (fun e => e) (fun _ v => v)
    (fun done _ rest => .item done rest)
    (fun _ => (bind_pure _).symm) (fun _ => performs_settled fun _ _ => rfl)
    (fun _ _ _ _ _ => rfl) (fun _ _ _ _ => rfl) (fun _ _ _ _ _ _ => rfl) [] items

lemma performs_membersLeft (h : PerformsAll run least depth) (members : List (String × Expr)) :
    Performs run least (fun m k => run.membersLeft [] members m k) .give
      ((members.mapM fun member => do
          let v ← run.evaluate depth member.2
          pure (member.1, v)) >>= fun ms => run.bounded (.object (Bindings.ofList ms))) :=
  h.mapM run.membersLeft (fun ms => run.bounded (.object (Bindings.ofList ms)))
    (fun member => member.2) (fun member v => (member.1, v))
    (fun done member rest => .property done member.1 rest)
    (fun _ => rfl) (fun _ => performs_settled fun _ _ => rfl)
    (fun _ _ _ _ _ => rfl) (fun _ _ _ _ => rfl) (fun _ _ _ _ _ _ => rfl) [] members

/-! ### Expressions and statements -/

/-- One step of evaluation, given that parts are performed. -/
lemma performs_evaluate_succ (h : PerformsAll run (least + 1) depth) (e : Expr) :
    Performs run least (fun m k => ⟨.evaluate e, m, k⟩) .give (run.evaluate (depth + 1) e) := by
  rw [Run.evaluate.eq_def]
  refine .deeper (.counted (run.enter e) (fun _ _ => rfl) ?_)
  cases e with
  | literal l => exact performs_settled fun _ _ => rfl
  | name x => exact performs_settled fun _ _ => rfl
  | binary op left right =>
    refine h.bind (fun _ => rfl) fun a => ?_
    by_cases ha : op.decidedBy a
    · simp only [ha, if_true]
      exact fun m k _ _ => leads_step (by simp [Run.step?, Run.take?, ha]; rfl)
    · simp only [ha]
      refine .step (fun m k => ⟨.evaluate right, m, .right op a :: k⟩) ?_ ?_
      · exact fun m k => by simp [Run.step?, Run.take?, ha]
      refine h.bind (fun _ => rfl) fun b => ?_
      by_cases hop : op.shortCircuits
      · simp only [hop, if_true]
        exact fun m k _ _ => leads_step (by simp [Run.step?, Run.take?, hop]; rfl)
      · simp only [hop]
        exact fun m k _ _ => leads_step (by simp [Run.step?, Run.take?, hop])
  | unary op operand => exact h.bind (fun _ => rfl) fun v => fun m k _ _ => leads_step rfl
  | call callee arguments =>
    exact h.bind (fun _ => rfl) fun f => .step _ (fun _ _ => rfl)
      (performs_argumentsLeft h f arguments)
  | index object key =>
    exact h.bind (fun _ => rfl) fun o => .step _ (fun _ _ => rfl)
      (h.bind (fun _ => rfl) fun v => fun m k _ _ => leads_step rfl)
  | member object key => exact h.bind (fun _ => rfl) fun v => fun m k _ _ => leads_step rfl
  | array items => exact performs_itemsLeft h items
  | object members => exact performs_membersLeft h members
  | lambda parameters body => exact performs_settled fun _ _ => rfl

lemma performs_execute_succ (h : PerformsAll run (least + 1) depth) (place : List Nat)
    (s : Stmt) :
    Performs run least (fun m k => ⟨.execute place s, m, k⟩) .finish
      (run.execute (depth + 1) place s) := by
  rw [Run.execute.eq_def]
  refine .counted (run.begin place s) (fun _ _ => rfl) ?_
  cases s with
  | expr e => exact h.bind (fun _ => rfl) fun v => fun m k _ _ => leads_step rfl
  | declare x value => exact h.bind (fun _ => rfl) fun v => fun m k _ _ => leads_step rfl
  | assign x value =>
    refine h.bind (fun _ => rfl) fun v => fun m k _ _ => leads_step ?_
    simp only [Run.step?, Run.take?, Bind.bind, EStateM.bind]
    cases run.assign x v m <;> rfl
  | block body => exact (performs_sequence h place 0 .null body).inScope
  | branch condition body otherwise =>
    refine h.bind (fun _ => rfl) fun c => ?_
    by_cases hc : c.truthy
    · simp only [hc, if_true]
      refine .step (fun m k => ⟨.execute (0 :: place) (.block body), m, k⟩) ?_
        (h.statement _ _)
      exact fun m k => by simp [Run.step?, Run.take?, hc]
    · simp only [hc]
      refine .step (fun m k => Run.otherwise place m k otherwise) ?_ ?_
      · exact fun m k => by simp [Run.step?, Run.take?, hc]
      cases otherwise with
      | nothing => exact performs_settled fun _ _ => rfl
      | block => exact h.statement _ _
      | branch => exact h.statement _ _
  | loop condition body => exact performs_whileLoop h place condition body (by omega)
  | each item source body =>
    refine h.bind (fun _ => rfl) fun v => ?_
    cases hv : Value.iteration? v with
    | ok items =>
      refine .step (fun m k => ⟨.finish (.normal .null),
        { m with scopes := [] :: m.scopes }, .each place item body items :: .scope :: k⟩) ?_ ?_
      · exact fun m k => by simp [Run.step?, Run.take?, hv]
      exact (performs_eachLoop h place item body items (.normal .null) rfl).inScope
    | error fault =>
      exact fun m k _ _ => leads_step (by simp [Run.step?, Run.take?, hv]; rfl)
  | function name parameters body =>
    refine performs_settled fun m k => ?_
    simp only [Run.begin, Bind.bind, EStateM.bind]
    cases run.closure name parameters body (.declared run.serial place) m <;> rfl
  | result value =>
    cases value with
    | none => exact performs_settled fun _ _ => rfl
    | some e => exact h.bind (fun _ => rfl) fun v => fun m k _ _ => leads_step rfl
  | leaveLoop => exact performs_settled fun _ _ => rfl
  | nextTurn => exact performs_settled fun _ _ => rfl

/-- Expressions and statements are performed if the depth that is allowed
makes up for the steps that have not been counted. -/
theorem performsAll (h : run.limits.maxSteps < depth + least) : PerformsAll run least depth := by
  induction depth generalizing least with
  | zero => exact ⟨fun _ m k _ _ => by omega, fun _ _ m k _ _ => by omega⟩
  | succ depth ih =>
    have hparts : PerformsAll run (least + 1) depth := ih (by omega)
    exact ⟨performs_evaluate_succ hparts, performs_execute_succ hparts⟩

/-- A script is led to the outcome that it has in the evaluator. -/
theorem leads_ended (run : Run) (code : Code) :
    run.Leads (.start code) (.ended (run.script code .start)) := by
  have hall : PerformsAll run 0 run.depthLimit := performsAll (Nat.lt_succ_self _)
  have hbody := performs_sequence hall [] 0 .null code .start [.script] (Nat.zero_le _)
    (Nat.zero_le _)
  refine hbody.trans ?_
  rw [Run.script]
  generalize Run.sequence _ _ _ _ _ _ = r
  cases r with
  | error fault m => exact leads_fail .script fault m []
  | ok flow m => cases flow <;> exact leads_step rfl

/-- Nothing comes after the end of a script. -/
lemma step?_ended (r : EStateM.Result RuntimeError Machine Value) :
    run.step? (.ended r) = none := by
  cases r <;> rfl

/-- Two ends that are reached from one moment are the same. -/
lemma Run.Leads.unique {c c' c'' : Moment} (h : run.Leads c c') (h' : run.Leads c c'')
    (hend : run.step? c' = none) (hend' : run.step? c'' = none) : c' = c'' := by
  obtain ⟨n, rfl⟩ := h
  obtain ⟨k, rfl⟩ := h'
  calc run.after n c = run.after k (run.after n c) := (after_of_step_none hend k).symm
    _ = run.after (n + k) c := (after_add n k c).symm
    _ = run.after (k + n) c := by rw [Nat.add_comm]
    _ = run.after n (run.after k c) := after_add k n c
    _ = run.after k c := after_of_step_none hend' n

lemma ended_injective {r r' : EStateM.Result RuntimeError Machine Value}
    (h : Moment.ended r = Moment.ended r') : r = r' := by
  cases r <;> cases r' <;> cases h <;> rfl

end Parts

end MockupStudio.Script
