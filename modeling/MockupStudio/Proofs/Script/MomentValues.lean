/-
The values that a moment of a run can get at.

* `Moment.Holds`: a property of all of them: the value that has just been
  given, those that open expressions and loops have put aside, and every
  variable, also in the scopes that callers will go on with;
* `Stable.over`, `Moment.Consists.holds`: for a property that is stable, the code
  of a moment does not matter;
* `holds_after_start`: all values of every moment of a script have it.
-/
import MockupStudio.Proofs.Script.MomentCode

namespace MockupStudio.Script

/-- A property of the values of a task. -/
def Task.Holds (P : Value → Prop) : Task → Prop
  | .give v => P v
  | .finish flow => flow.Holds P
  | .evaluate _ | .enter _ | .execute .. | .fail _ => True

/-- A property of the values that a frame has put aside. -/
def Frame.Holds (P : Value → Prop) : Frame → Prop
  | .right _ v | .key v => P v
  | .argument f done _ => P f ∧ ∀ v ∈ done, P v
  | .item done _ => ∀ v ∈ done, P v
  | .property done _ _ => ∀ member ∈ done, P member.2
  | .caller scopes _ => Script.Holds P scopes
  | .each _ _ _ rest => ∀ v ∈ rest, P v
  | _ => True

/-- A property of all values that a moment can get at. -/
structure Moment.Holds (P : Value → Prop) (c : Moment) : Prop where
  task : c.task.Holds P
  scopes : Script.Holds P c.machine.scopes
  pending : ∀ frame ∈ c.pending, frame.Holds P

section Runs

variable {run : Run} {P Q : Value → Prop} {c : Moment}

/-! ### Weaker properties -/

lemma Holds.mono {scopes : List Scope} (h : Holds P scopes) (hPQ : ∀ v, P v → Q v) :
    Holds Q scopes :=
  fun scope hscope b hb => hPQ b.2 (h scope hscope b hb)

lemma Task.Holds.mono {task : Task} (h : task.Holds P) (hPQ : ∀ v, P v → Q v) : task.Holds Q := by
  cases task with
  | give v => exact hPQ v h
  | finish flow =>
    cases flow with
    | normal v | returned v => exact hPQ v h
    | leftLoop | nextTurn => trivial
  | _ => trivial

lemma Frame.Holds.mono {frame : Frame} (h : frame.Holds P) (hPQ : ∀ v, P v → Q v) :
    frame.Holds Q := by
  cases frame with
  | right _ v | key v => exact hPQ v h
  | argument f => exact ⟨hPQ f h.1, fun v hv => hPQ v (h.2 v hv)⟩
  | item | each => exact fun v hv => hPQ v (h v hv)
  | property => exact fun pair hpair => hPQ pair.2 (h pair hpair)
  | caller => exact Script.Holds.mono h hPQ
  | _ => trivial

lemma Moment.Holds.mono (h : c.Holds P) (hPQ : ∀ v, P v → Q v) : c.Holds Q where
  task := h.task.mono hPQ
  scopes := h.scopes.mono hPQ
  pending := fun frame hframe => (h.pending frame hframe).mono hPQ

/-! ### Moments of a script -/

/-- A property that is stable whatever a script writes down. -/
lemma Stable.over (hP : Stable run P) : StableOver run (fun _ => True) P where
  blank := trivial
  helpers := hP.helpers
  literal _ := hP.literal _
  binary := hP.binary
  unary := hP.unary
  index := hP.index
  member := hP.member
  iteration := hP.iteration
  array _ _ := hP.array
  object _ _ hpairs := hP.object (Bindings.nodup_keys_ofList _) (all_ofList hpairs)
  closure _ := hP.closure
  body _ _ _ := trivial
  captured := hP.captured
  native := hP.native

lemma Task.Consists.holds {C : Expr → Prop} {task : Task} (h : task.Consists C P) :
    task.Holds P := by
  cases task with
  | give | finish => exact h
  | _ => trivial

lemma Frame.Consists.holds {C : Expr → Prop} {frame : Frame} (h : frame.Consists C P) :
    frame.Holds P := by
  cases frame with
  | right | key | caller => exact h
  | argument => exact ⟨h.1, h.2.1⟩
  | item | property => exact h.1
  | each => exact h.2
  | _ => trivial

/-- The values of a moment, its code apart. -/
lemma Moment.Consists.holds {C : Expr → Prop} (h : c.Consists C P) : c.Holds P where
  task := h.task.holds
  scopes := h.scopes
  pending := fun frame hframe => (h.pending frame hframe).holds

/-- All values of every moment of a script have every stable property. -/
theorem holds_after_start (hP : Stable run P) (code : Code) (n : Nat) :
    (run.after n (.start code)).Holds P :=
  (consists_after_start hP.over (fun _ _ => trivial) n).holds

end Runs

end MockupStudio.Script
