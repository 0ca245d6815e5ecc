/-
Steps on what a store holds, from given contents.

* `Storing.get_apply`, `Storing.modify_apply` and so on: what an elementary step
  gives and leaves;
* `Storing.bind_ok`, `Storing.bind_error`: two steps, where the first one succeeds
  and where it fails.
-/
import MockupStudio.Store.Basic
import Mathlib.Tactic.Lemma

namespace MockupStudio.Storing

variable {σ α β : Type} {work work' : Storing σ α} {next : α → Storing σ β} {s s' : σ}

/-! ### Elementary steps -/

@[simp] lemma pure_apply (a : α) (s : σ) : (pure a : Storing σ α) s = .ok a s := rfl

@[simp] lemma throw_apply (e : StoreError) (s : σ) : (throw e : Storing σ α) s = .error e s := rfl

@[simp] lemma get_apply (s : σ) : (get : Storing σ σ) s = .ok s s := rfl

@[simp] lemma set_apply (s s' : σ) : (set s' : Storing σ PUnit) s = .ok ⟨⟩ s' := rfl

@[simp] lemma modify_apply (change : σ → σ) (s : σ) :
    (modify change : Storing σ PUnit) s = .ok ⟨⟩ (change s) := rfl

/-! ### One step after another -/

@[simp] lemma bind_apply (work : Storing σ α) (next : α → Storing σ β) (s : σ) :
    (work >>= next) s = match work s with
      | .ok a s' => next a s'
      | .error e s' => .error e s' := by
  change EStateM.bind work next s = _
  rw [EStateM.bind]
  cases work s <;> rfl

@[simp] lemma map_apply (f : α → β) (work : Storing σ α) (s : σ) :
    (f <$> work) s = match work s with
      | .ok a s' => .ok (f a) s'
      | .error e s' => .error e s' := by
  rw [map_eq_pure_bind, bind_apply]
  rfl

lemma bind_ok {a : α} (h : work s = .ok a s') : (work >>= next) s = next a s' := by
  rw [bind_apply, h]

lemma bind_error {e : StoreError} (h : work s = .error e s') :
    (work >>= next) s = .error e s' := by
  rw [bind_apply, h]

lemma bind_congr (h : work s = work' s) : (work >>= next) s = (work' >>= next) s := by
  rw [bind_apply, bind_apply, h]

end MockupStudio.Storing
