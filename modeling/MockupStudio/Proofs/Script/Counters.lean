/-
The counters of a run, moment by moment.

* `Still`: a part of a run that changes nothing but variables;
* `Continues`: a moment reached without counting a step; one lemma for each
  way of going on;
* `comes_of_step`: what a step can do;
* `Moment.begun`, `Moment.InStep`, `Moment.Deep`: what every step keeps about
  the steps begun, about their limit, and about the depths that are counted;
* `after_induction`: what every step keeps holds after any number of steps.
-/
import MockupStudio.Proofs.Script.Faults
import MockupStudio.Proofs.Script.Moments

namespace MockupStudio.Script

/-! ### Parts that count nothing -/

/-- An outcome in which nothing but variables has changed, and which is not
about the steps taken. -/
inductive Still (m : Machine) : EStateM.Result RuntimeError Machine α → Prop where
  | ok (a : α) (scopes : List Scope) : Still m (.ok a { m with scopes })
  | error (scopes : List Scope) : (∀ n, e ≠ .stepLimit n) → Still m (.error e { m with scopes })

section Parts

variable {run : Run} (m : Machine)

lemma Still.fail {e : RuntimeError} (h : ∀ n, e ≠ .stepLimit n) :
    Still m (.error e m : EStateM.Result RuntimeError Machine α) :=
  .error m.scopes h

lemma Still.pure (a : α) : Still m (.ok a m) := .ok a m.scopes

lemma still_lift {r : Except RuntimeError α} (h : Complains r) : Still m (Run.lift r m) := by
  cases r with
  | ok a => exact .pure m a
  | error e =>
    refine .fail m ?_
    rintro n rfl
    cases h _ rfl

lemma still_bounded (v : Value) : Still m (run.bounded v m) := by
  rw [Run.bounded]
  split
  · exact .fail m (by simp)
  · exact .pure m v

lemma still_read (name : String) : Still m (run.read name m) := by
  rw [Run.read]
  split
  · exact .pure m _
  · exact .fail m (by simp)

lemma still_assign (name : String) (v : Value) : Still m (run.assign name v m) := by
  rw [Run.assign]
  split
  · exact .ok _ _
  · exact .fail m (by simp)
  · exact .fail m (by simp)

lemma still_callNative (f : Native) (arguments : List Value) :
    Still m (run.callNative f arguments m) := by
  rw [Run.callNative]
  cases f.call arguments run.globals.host with
  | ok v => exact still_bounded m v
  | error message => exact .fail m (by simp)

lemma still_callResult (flow : Flow) : Still m (Run.callResult flow m) := by
  cases flow with
  | returned v => exact .pure m v
  | normal => exact .pure m Value.null
  | leftLoop | nextTurn => exact .fail m (by simp)

end Parts

/-! ### Depths -/

/-- Whether a frame stands for an open expression. -/
def Frame.isExpression : Frame → Bool
  | .expression => true
  | _ => false

/-- Whether a frame stands for an open call. -/
def Frame.isCaller : Frame → Bool
  | .caller .. => true
  | _ => false

/-- Whether a frame is counted as a depth. -/
def Frame.isCounted (frame : Frame) : Bool := frame.isExpression || frame.isCaller

/-- The open calls, and the expressions open in the innermost one, are what
the frames say, and all of them have been let in. -/
inductive Nested (limits : Limits) : Nat → Nat → List Frame → Prop where
  | nil : Nested limits 0 0 []
  | expression : evalDepth < limits.maxNesting → Nested limits callDepth evalDepth k →
      Nested limits callDepth (evalDepth + 1) (.expression :: k)
  | caller : callDepth < limits.maxCallDepth → Nested limits callDepth evalDepth k →
      Nested limits (callDepth + 1) 0 (.caller scopes evalDepth :: k)
  | other : frame.isCounted = false → Nested limits callDepth evalDepth k →
      Nested limits callDepth evalDepth (frame :: k)

/-- How many expressions are open. -/
def openExpressions (k : List Frame) : Nat := k.countP Frame.isExpression

section Nested

variable {limits : Limits} {callDepth evalDepth : Nat} {k : List Frame} {frame : Frame}

lemma Nested.tail (h : Nested limits callDepth evalDepth (frame :: k))
    (hframe : frame.isCounted = false) : Nested limits callDepth evalDepth k := by
  cases h with
  | expression | caller => cases hframe
  | other _ h => exact h

lemma Nested.of_expression (h : Nested limits callDepth evalDepth (.expression :: k)) :
    Nested limits callDepth (evalDepth - 1) k := by
  cases h with
  | expression _ h => exact h
  | other hframe => cases hframe

lemma Nested.of_caller {scopes : List Scope} {saved : Nat}
    (h : Nested limits callDepth evalDepth (.caller scopes saved :: k)) :
    Nested limits (callDepth - 1) saved k := by
  cases h with
  | caller _ h => exact h
  | other hframe => cases hframe

/-- What an error leaves when it closes a frame. -/
lemma Nested.close {m : Machine} (h : Nested limits m.callDepth m.evalDepth (frame :: k)) :
    Nested limits (frame.close m).callDepth (frame.close m).evalDepth k := by
  cases frame with
  | expression => exact h.of_expression
  | caller => exact h.of_caller
  | _ => exact h.tail rfl

lemma Nested.callDepth_le (h : Nested limits callDepth evalDepth k) :
    callDepth ≤ limits.maxCallDepth := by
  induction h with
  | nil => exact Nat.zero_le _
  | expression _ _ ih => exact ih
  | caller hlt => exact hlt
  | other _ _ ih => exact ih

lemma Nested.evalDepth_le (h : Nested limits callDepth evalDepth k) :
    evalDepth ≤ limits.maxNesting := by
  induction h with
  | nil | caller => exact Nat.zero_le _
  | expression hlt => exact hlt
  | other _ _ ih => exact ih

/-- Each body that has been left for a call has no more open expressions than
are let in. -/
lemma Nested.openExpressions_le (h : Nested limits callDepth evalDepth k) :
    openExpressions k ≤ callDepth * limits.maxNesting + evalDepth := by
  induction h with
  | nil => simp [openExpressions]
  | expression _ _ ih =>
    rw [openExpressions, List.countP_cons_of_pos rfl, ← openExpressions]
    omega
  | caller _ h ih =>
    have hle := h.evalDepth_le
    rw [openExpressions, List.countP_cons_of_neg (by simp [Frame.isExpression]),
      ← openExpressions, Nat.succ_mul]
    omega
  | other hframe _ ih =>
    rw [Frame.isCounted, Bool.or_eq_false_iff] at hframe
    rw [openExpressions, List.countP_cons_of_neg (by simp [hframe.1]), ← openExpressions]
    exact ih

end Nested

/-! ### Going on without a step -/

/-- A moment that comes after a machine over some frames, with no step
counted in between. -/
structure Continues (run : Run) (m : Machine) (k : List Frame) (c : Moment) : Prop where
  steps : c.machine.steps = m.steps
  noLimit : ∀ n, c.task ≠ .fail (.stepLimit n)
  nested : Nested run.limits m.callDepth m.evalDepth k →
    Nested run.limits c.machine.callDepth c.machine.evalDepth c.pending

section Continues

variable {run : Run} {m : Machine} {k : List Frame} {c : Moment} {frame : Frame}

lemma Continues.settled {done : α → Task} {r : EStateM.Result RuntimeError Machine α}
    (h : Still m r) (hdone : ∀ a n, done a ≠ .fail (.stepLimit n)) :
    Continues run m k (.settled done k r) := by
  cases h with
  | ok => exact ⟨rfl, hdone _, id⟩
  | error _ he => exact ⟨rfl, fun n h => he n (Task.fail.inj h), id⟩

lemma continues_scopes {task : Task} {scopes : List Scope}
    (h : ∀ n, task ≠ .fail (.stepLimit n)) :
    Continues run m k ⟨task, { m with scopes }, k⟩ :=
  ⟨rfl, h, id⟩

lemma continues_task {task : Task} (h : ∀ n, task ≠ .fail (.stepLimit n)) :
    Continues run m k ⟨task, m, k⟩ :=
  ⟨rfl, h, id⟩

/-- A frame may be opened that is not counted. -/
lemma Continues.opened (h : Continues run m (frame :: k) c) (hframe : frame.isCounted = false) :
    Continues run m k c :=
  ⟨h.steps, h.noLimit, fun hk => h.nested (.other hframe hk)⟩

/-- A frame may be left that is not counted. -/
lemma Continues.left (h : Continues run m k c) (hframe : frame.isCounted = false) :
    Continues run m (frame :: k) c :=
  ⟨h.steps, h.noLimit, fun hk => h.nested (hk.tail hframe)⟩

lemma continues_evaluate (e : Expr) (hframe : frame.isCounted = false) :
    Continues run m k ⟨.evaluate e, m, frame :: k⟩ :=
  (continues_task (by simp)).opened hframe

lemma continues_call (f : Value) (arguments : List Value) :
    Continues run m k (run.call f arguments m k) := by
  cases f with
  | function name parameters body captured id =>
    rw [Run.call]
    split
    · exact continues_task (by simp)
    · split
      · exact continues_task (by simp)
      · next hlt => exact ⟨rfl, by simp, fun hk => .other rfl (.caller (Nat.not_le.mp hlt) hk)⟩
  | native f => exact .settled (still_callNative m f arguments) (by simp)
  | _ => exact continues_task (by simp)

lemma continues_argumentsLeft (f : Value) (done : List Value) (rest : List Expr) :
    Continues run m k (run.argumentsLeft f done rest m k) := by
  cases rest with
  | nil => exact continues_call f done
  | cons e rest => exact continues_evaluate e rfl

lemma continues_itemsLeft (done : List Value) (rest : List Expr) :
    Continues run m k (run.itemsLeft done rest m k) := by
  cases rest with
  | nil => exact .settled (still_bounded m _) (by simp)
  | cons e rest => exact continues_evaluate e rfl

lemma continues_membersLeft (done : List (String × Value)) (rest : List (String × Expr)) :
    Continues run m k (run.membersLeft done rest m k) := by
  cases rest with
  | nil => exact .settled (still_bounded m _) (by simp)
  | cons member rest => exact continues_evaluate member.2 rfl

lemma continues_enter (e : Expr) : Continues run m k (run.enter e m k) := by
  cases e with
  | literal l => exact continues_task (by simp)
  | name x => exact .settled (still_read m x) (by simp)
  | array items => exact continues_itemsLeft [] items
  | object members => exact continues_membersLeft [] members
  | lambda parameters body => exact .settled (still_bounded m _) (by simp)
  | _ => exact continues_evaluate _ rfl

lemma continues_begin (place : List Nat) (s : Stmt) :
    Continues run m k (run.begin place s m k) := by
  cases s with
  | block body => exact ⟨rfl, by simp [Run.begin], fun hk => .other rfl (.other rfl hk)⟩
  | function name parameters body =>
    have h : Still m (run.bounded (.function name parameters body (some (flattened m.scopes))
        (.declared run.serial place)) m) := still_bounded m _
    rw [Run.begin, Run.closure]
    generalize run.bounded _ m = r at h ⊢
    cases h with
    | ok => exact continues_scopes (by simp)
    | error _ he => exact ⟨rfl, fun n h => he n (Task.fail.inj h), id⟩
  | result value =>
    cases value with
    | none => exact continues_task (by simp)
    | some e => exact continues_evaluate e rfl
  | leaveLoop | nextTurn => exact continues_task (by simp)
  | _ => exact continues_evaluate _ rfl

lemma continues_otherwise (place : List Nat) (o : Otherwise) :
    Continues run m k (Run.otherwise place m k o) := by
  cases o <;> exact continues_task (by simp)

/-- A value goes to a frame. -/
lemma continues_take {v : Value} (h : run.take? v m k frame = some c) :
    Continues run m (frame :: k) c := by
  cases frame with
  | expression =>
    cases h
    exact ⟨rfl, by simp, fun hk => hk.of_expression⟩
  | left op right =>
    cases h
    split
    · exact (continues_task (by simp)).left rfl
    · exact (continues_evaluate _ rfl).left rfl
  | right op left =>
    cases h
    split
    · exact (continues_task (by simp)).left rfl
    · exact (Continues.settled (still_lift m (complains_binary left v op)) (by simp)).left rfl
  | operand op =>
    cases h
    exact (Continues.settled (still_lift m (complains_unary v op)) (by simp)).left rfl
  | callee arguments => cases h; exact (continues_argumentsLeft _ _ _).left rfl
  | argument f done rest => cases h; exact (continues_argumentsLeft _ _ _).left rfl
  | indexed key => cases h; exact (continues_evaluate _ rfl).left rfl
  | key object =>
    cases h
    exact (Continues.settled (still_lift m (complains_index object v)) (by simp)).left rfl
  | member key =>
    cases h
    exact (Continues.settled (still_lift m (complains_member v key)) (by simp)).left rfl
  | item done rest => cases h; exact (continues_itemsLeft _ _).left rfl
  | property done key rest => cases h; exact (continues_membersLeft _ _).left rfl
  | value | result => cases h; exact (continues_task (by simp)).left rfl
  | declare x => cases h; exact (continues_scopes (by simp)).left rfl
  | assign x => cases h; exact (Continues.settled (still_assign m x v) (by simp)).left rfl
  | branch place body o =>
    cases h
    split
    · exact (continues_task (by simp)).left rfl
    · exact (continues_otherwise place o).left rfl
  | condition place condition body =>
    cases h
    split
    · exact ((continues_task (by simp)).opened rfl).left rfl
    · exact (continues_task (by simp)).left rfl
  | source place item body =>
    have hcomplains := complains_iteration v
    rw [Run.take?] at h
    split at h
    · cases h
      exact ⟨rfl, by simp, fun hk => .other rfl (.other rfl (hk.tail rfl))⟩
    · next e he =>
      cases h
      refine (continues_task ?_).left rfl
      rintro n ⟨⟩
      cases hcomplains _ he
  | caller | turn | each | scope | sequel | script => cases h

/-- The end of a statement goes to a frame. -/
lemma continues_resume {flow : Flow} (h : Run.resume? flow m k frame = some c) :
    Continues run m (frame :: k) c := by
  cases frame with
  | sequel place i rest =>
    rw [Run.resume?.eq_def] at h
    dsimp only at h
    split at h
    · cases h; exact ((continues_task (by simp)).opened rfl).left rfl
    · cases h; exact (continues_task (by simp)).left rfl
  | turn place condition body =>
    rw [Run.resume?.eq_def] at h
    dsimp only at h
    split at h
    · cases h; exact (continues_task (by simp)).left rfl
    · cases h; exact (continues_task (by simp)).left rfl
    · cases h; exact (continues_evaluate _ rfl).left rfl
  | each place item body rest =>
    rw [Run.resume?.eq_def] at h
    dsimp only at h
    split at h
    · cases h; exact (continues_task (by simp)).left rfl
    · cases h; exact (continues_task (by simp)).left rfl
    · cases h; exact (continues_task (by simp)).left rfl
    · cases h; exact ((continues_scopes (by simp)).opened rfl).left rfl
  | scope => cases h; exact (continues_scopes (by simp)).left rfl
  | caller scopes evalDepth =>
    cases h
    have hsettled : Continues run ((Frame.caller scopes evalDepth).close m) k (.settled .give k _) :=
      .settled (still_callResult _ flow) (by simp)
    exact ⟨hsettled.steps, hsettled.noLimit, fun hk => hsettled.nested hk.of_caller⟩
  | script => cases h; exact (Continues.settled (still_callResult m flow) (by simp)).left rfl
  | _ => cases h

end Continues

/-! ### What a step can do -/

/-- Beginning an expression or a statement counts a step, or passes the limit. -/
inductive Ticks (run : Run) (m : Machine) : EStateM.Result RuntimeError Machine Unit → Prop where
  | ok : m.steps < run.limits.maxSteps → Ticks run m (.ok () { m with steps := m.steps + 1 })
  | error : run.limits.maxSteps ≤ m.steps →
      Ticks run m (.error (.stepLimit run.limits.maxSteps) { m with steps := m.steps + 1 })

lemma ticks (run : Run) (m : Machine) : Ticks run m (run.tick m) := by
  rw [Run.tick]
  dsimp only
  split
  · next h => exact .error (Nat.le_of_lt_succ h)
  · next h => exact .ok (Nat.not_lt.mp h)

/-- Whether a task is the beginning of an expression or a statement, which
counts a step. -/
def Task.begins : Task → Bool
  | .enter _ | .execute .. => true
  | _ => false

/-- Whether a task is what comes out of an expression or a statement. -/
def Task.comesOut : Task → Bool
  | .give _ | .finish _ => true
  | _ => false

/-- What the next moment can be. -/
inductive Comes (run : Run) : Moment → Moment → Prop where
  /-- An expression is refused. -/
  | refused {e m k n} : Comes run ⟨.evaluate e, m, k⟩ ⟨.fail (.nestingLimit n), m, k⟩
  /-- An expression is let in. -/
  | letIn {e m k} : m.evalDepth < run.limits.maxNesting → Comes run ⟨.evaluate e, m, k⟩
      ⟨.enter e, { m with evalDepth := m.evalDepth + 1 }, .expression :: k⟩
  /-- A step is counted. -/
  | counted {task m k c} : task.begins → m.steps < run.limits.maxSteps →
      Continues run { m with steps := m.steps + 1 } k c → Comes run ⟨task, m, k⟩ c
  /-- A step is one too many. -/
  | passed {task m k} : task.begins → run.limits.maxSteps ≤ m.steps → Comes run ⟨task, m, k⟩
      ⟨.fail (.stepLimit run.limits.maxSteps), { m with steps := m.steps + 1 }, k⟩
  /-- A frame is given what it waited for. -/
  | given {task m k c} : task.comesOut → Continues run m k c → Comes run ⟨task, m, k⟩ c
  /-- A frame is left by an error. -/
  | closed {e m frame k} : Comes run ⟨.fail e, m, frame :: k⟩ ⟨.fail e, frame.close m, k⟩

section Steps

variable {run : Run} {c c' : Moment}

theorem comes_of_step (h : run.step? c = some c') : Comes run c c' := by
  obtain ⟨task, m, k⟩ := c
  cases task with
  | evaluate e =>
    rw [Run.step?] at h
    cases h
    split
    · exact .refused
    · next hlt => exact .letIn (Nat.not_le.mp hlt)
  | enter e =>
    have htick := ticks run m
    rw [Run.step?] at h
    generalize run.tick m = r at htick h
    cases htick with
    | ok hlt => cases h; exact .counted rfl hlt (continues_enter e)
    | error hle => cases h; exact .passed rfl hle
  | execute place s =>
    have htick := ticks run m
    rw [Run.step?] at h
    generalize run.tick m = r at htick h
    cases htick with
    | ok hlt => cases h; exact .counted rfl hlt (continues_begin place s)
    | error hle => cases h; exact .passed rfl hle
  | give v =>
    cases k with
    | nil => cases h
    | cons frame k => exact .given rfl (continues_take h)
  | finish flow =>
    cases k with
    | nil => cases h
    | cons frame k => exact .given rfl (continues_resume h)
  | fail e =>
    cases k with
    | nil => cases h
    | cons frame k => cases h; exact .closed

@[simp] lemma Frame.close_steps (frame : Frame) (m : Machine) :
    (frame.close m).steps = m.steps := by
  cases frame <;> rfl

/-! ### What every step keeps -/

/-- The steps that have been begun, counted or not. -/
def Moment.begun (c : Moment) : Nat := c.machine.steps + if c.task.comesOut then 0 else 1

lemma begun_le_of_step (h : run.step? c = some c') : c.begun ≤ c'.begun := by
  cases comes_of_step h with
  | refused | letIn | closed => simp [Moment.begun, Task.comesOut]
  | @counted task m _ _ hbegins _ hc =>
    have hsteps : c'.machine.steps = m.steps + 1 := hc.steps
    simp only [Moment.begun]
    split <;> omega
  | passed =>
    simp only [Moment.begun]
    split <;> omega
  | given hout hc =>
    have hsteps := hc.steps
    simp [Moment.begun, hout, hsteps]

/-- The step limit has been kept to, or it has just been passed and the run
fails with it. -/
structure Moment.InStep (run : Run) (c : Moment) : Prop where
  within : (∀ n, c.task ≠ .fail (.stepLimit n)) → c.machine.steps ≤ run.limits.maxSteps
  passed : ∀ n, c.task = .fail (.stepLimit n) → c.machine.steps = run.limits.maxSteps + 1

lemma Moment.InStep.of_le (hsteps : c.machine.steps ≤ run.limits.maxSteps)
    (htask : ∀ n, c.task ≠ .fail (.stepLimit n)) : c.InStep run :=
  ⟨fun _ => hsteps, fun n h => absurd h (htask n)⟩

lemma Moment.InStep.step (hc : c.InStep run) (h : run.step? c = some c') : c'.InStep run := by
  cases comes_of_step h with
  | refused => exact .of_le (hc.within (by simp)) (by simp)
  | letIn => exact .of_le (hc.within (by simp)) (by simp)
  | counted _ hlt hc' => exact .of_le (Nat.le_trans (Nat.le_of_eq hc'.steps) hlt) hc'.noLimit
  | @passed task m k hbegins hle =>
    have hwithin : m.steps ≤ run.limits.maxSteps := hc.within (by rintro n rfl; cases hbegins)
    have hsteps : m.steps + 1 = run.limits.maxSteps + 1 := by omega
    exact ⟨fun hnone => absurd rfl (hnone _), fun _ _ => hsteps⟩
  | @given task m k _ hout hc' =>
    have hwithin : m.steps ≤ run.limits.maxSteps := hc.within (by rintro n rfl; cases hout)
    exact .of_le (Nat.le_trans (Nat.le_of_eq hc'.steps) hwithin) hc'.noLimit
  | closed => exact ⟨fun h => by simpa using hc.within h, fun n h => by simpa using hc.passed n h⟩

/-- The counters of a moment are the depths of its frames. -/
def Moment.Deep (run : Run) (c : Moment) : Prop :=
  Nested run.limits c.machine.callDepth c.machine.evalDepth c.pending

lemma Moment.Deep.step (hc : c.Deep run) (h : run.step? c = some c') : c'.Deep run := by
  cases comes_of_step h with
  | refused | passed => exact hc
  | letIn hlt => exact .expression hlt hc
  | counted _ _ hc' => exact hc'.nested hc
  | given _ hc' => exact hc'.nested hc
  | closed => exact hc.close

/-! ### What any number of steps keeps -/

/-- What every step keeps holds after any number of steps. -/
theorem after_induction {P : Moment → Prop}
    (hstep : ∀ c c', P c → run.step? c = some c' → P c') (n : Nat) {c : Moment} (hc : P c) :
    P (run.after n c) := by
  induction n generalizing c with
  | zero => exact hc
  | succ n ih =>
    rw [Run.after]
    split
    · next c' h => exact ih (hstep c c' hc h)
    · exact hc

lemma begun_le_after (run : Run) (n : Nat) (c : Moment) : c.begun ≤ (run.after n c).begun :=
  after_induction (P := fun c' => c.begun ≤ c'.begun)
    (fun _ _ hc h => Nat.le_trans hc (begun_le_of_step h)) n (Nat.le_refl _)

lemma Moment.InStep.after (hc : c.InStep run) (n : Nat) : (run.after n c).InStep run :=
  after_induction (fun _ _ => Moment.InStep.step) n hc

lemma Moment.Deep.after (hc : c.Deep run) (n : Nat) : (run.after n c).Deep run :=
  after_induction (fun _ _ => Moment.Deep.step) n hc

end Steps

end MockupStudio.Script
