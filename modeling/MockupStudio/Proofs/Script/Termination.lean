/-
Scripts end, within their limits.

Nothing but the limits bounds a run that is taken step by step: a script may
loop as long as it likes, and a function may call itself, or another one that
it finds in an object.

* `Moment.Within`: the counters of a moment and its open expressions keep to
  the limits;
* `within_after_start`: so does every moment of a run;
* `script_ends`: every run comes to an end, which is the outcome that the
  evaluator gives; it has passed the step limit if and only if it fails
  with it.
-/
import MockupStudio.Proofs.Script.Agreement

namespace MockupStudio.Script

/-- A moment that keeps to the limits of a script. An expression is open from
when it is let in until its value or an error leaves it. -/
structure Moment.Within (limits : Limits) (c : Moment) : Prop where
  steps : c.machine.steps ≤ limits.maxSteps + 1
  callDepth : c.machine.callDepth ≤ limits.maxCallDepth
  evalDepth : c.machine.evalDepth ≤ limits.maxNesting
  openExpressions :
    openExpressions c.pending ≤ (limits.maxCallDepth + 1) * limits.maxNesting

section Within

variable {run : Run} {c : Moment}

lemma Moment.InStep.steps_le (h : c.InStep run) : c.machine.steps ≤ run.limits.maxSteps + 1 := by
  by_cases hpassed : ∃ n, c.task = .fail (.stepLimit n)
  · obtain ⟨n, hn⟩ := hpassed
    have hsteps := h.passed n hn
    omega
  · have hsteps := h.within fun n hn => hpassed ⟨n, hn⟩
    omega

lemma Moment.Deep.openExpressions_le (h : c.Deep run) :
    openExpressions c.pending ≤ (run.limits.maxCallDepth + 1) * run.limits.maxNesting := by
  have hcalls : c.machine.callDepth * run.limits.maxNesting
      ≤ run.limits.maxCallDepth * run.limits.maxNesting :=
    Nat.mul_le_mul_right _ (Nested.callDepth_le h)
  have heval : c.machine.evalDepth ≤ run.limits.maxNesting := Nested.evalDepth_le h
  calc openExpressions c.pending
      ≤ c.machine.callDepth * run.limits.maxNesting + c.machine.evalDepth :=
        Nested.openExpressions_le h
    _ ≤ run.limits.maxCallDepth * run.limits.maxNesting + run.limits.maxNesting :=
        Nat.add_le_add hcalls heval
    _ = (run.limits.maxCallDepth + 1) * run.limits.maxNesting := (Nat.succ_mul _ _).symm

lemma Moment.Within.of_inStep (hsteps : c.InStep run) (hdeep : c.Deep run) :
    c.Within run.limits where
  steps := hsteps.steps_le
  callDepth := Nested.callDepth_le hdeep
  evalDepth := Nested.evalDepth_le hdeep
  openExpressions := hdeep.openExpressions_le

end Within

section Script

variable (run : Run) (code : Code)

lemma inStep_start : (Moment.start code).InStep run :=
  .of_le (Nat.zero_le _) (by simp [Moment.start])

lemma deep_start : (Moment.start code).Deep run := .other rfl (.other rfl .nil)

/-- Every moment of a run keeps to the limits. -/
theorem within_after_start (n : Nat) : (run.after n (.start code)).Within run.limits :=
  .of_inStep ((inStep_start run code).after n) ((deep_start run code).after n)

/-- A run fails with the step limit if and only if it has passed it. -/
theorem stepLimit_iff :
    (∃ n m, run.script code .start = .error (.stepLimit n) m)
      ↔ (Moment.ended (run.script code .start)).machine.steps = run.limits.maxSteps + 1 := by
  obtain ⟨n, hn⟩ := leads_ended run code
  have hend := (inStep_start run code).after n
  rw [hn] at hend
  generalize run.script code .start = r at hend
  constructor
  · rintro ⟨n, m, rfl⟩
    exact hend.passed n rfl
  · intro hsteps
    by_contra hnone
    have hle : (Moment.ended r).machine.steps ≤ run.limits.maxSteps := by
      refine hend.within fun n htask => hnone ?_
      cases r with
      | ok v m => cases htask
      | error e m => exact ⟨n, m, by rw [Task.fail.inj htask]⟩
    omega

/-- Every run of a script comes to an end, within the limits at every moment;
it fails with the step limit if and only if it ends one step past it. -/
theorem script_ends :
    (∃ n, run.after n (.start code) = .ended (run.script code .start)
      ∧ run.step? (run.after n (.start code)) = none)
    ∧ (∀ n, (run.after n (.start code)).Within run.limits)
    ∧ ((∃ n m, run.script code .start = .error (.stepLimit n) m)
      ↔ (Moment.ended (run.script code .start)).machine.steps = run.limits.maxSteps + 1) := by
  refine ⟨?_, within_after_start run code, stepLimit_iff run code⟩
  obtain ⟨n, hn⟩ := leads_ended run code
  exact ⟨n, hn, hn ▸ step?_ended _⟩

end Script

end MockupStudio.Script
