/-
Samples do not depend on the order of maps.

* `Shows`: two computations that differ only in what is not seen of their
  states;
* `ForcesAlike`: a way of forcing fixtures that yields what they yield, with
  maps in any order;
* `walk_alike`: values that are alike are expanded to the same data, with the
  same draws;
* `expandEnd_alike`: so are the ends of runs that are alike.
-/
import MockupStudio.Proofs.Script.AlikeMoments
import MockupStudio.Proofs.Script.Expansion
import MockupStudio.Script.Sandbox

namespace MockupStudio.Script

open Value (AllAlike)

/-! ### What is seen of a state -/

section Seen

variable {ε σ τ α β γ : Type}

/-- An outcome with what is seen of the state. -/
def seenAs (seen : σ → τ) : EStateM.Result ε σ α → EStateM.Result ε τ α
  | .ok a s => .ok a (seen s)
  | .error e s => .error e (seen s)

/-- A computation comes to the same as another one, as far as its state is
seen. -/
def Shows (seen : σ → τ) (x : EStateM ε σ α) (x' : EStateM ε τ α) : Prop :=
  ∀ s, seenAs seen (x s) = x' (seen s)

variable {seen : σ → τ} {x : EStateM ε σ α} {x' : EStateM ε τ α}

lemma Shows.pure (a : α) : Shows (ε := ε) seen (Pure.pure a) (Pure.pure a) := fun _ => rfl

lemma Shows.bind {f : α → EStateM ε σ β} {f' : α → EStateM ε τ β} (hx : Shows seen x x')
    (hf : ∀ a, Shows seen (f a) (f' a)) : Shows seen (x >>= f) (x' >>= f') := by
  intro s
  have hs := hx s
  simp only [Bind.bind, EStateM.bind, ← hs]
  cases x s with
  | ok a s => exact hf a s
  | error => rfl

/-- Lists that are related one by one. -/
lemma Shows.mapM {R : β → γ → Prop} {f : β → EStateM ε σ α} {f' : γ → EStateM ε τ α}
    (hf : ∀ b c, R b c → Shows seen (f b) (f' c)) {bs : List β} {cs : List γ}
    (h : List.Forall₂ R bs cs) : Shows seen (bs.mapM f) (cs.mapM f') := by
  induction h with
  | nil => exact .pure []
  | cons hbc _ ih =>
    simp only [List.mapM_cons]
    exact (hf _ _ hbc).bind fun a => ih.bind fun as => .pure (a :: as)

end Seen

/-! ### Forcing -/

/-- Two outcomes of forcing a fixture: values that are alike, or the same
failure, with the same draws left. -/
inductive ForcedAlike (seen : σ → Supply) : EStateM.Result ForceFailure σ Value →
    EStateM.Result ForceFailure Supply Value → Prop where
  | ok : v.Alike w → ForcedAlike seen (.ok v world) (.ok w (seen world))
  | error : ForcedAlike seen (.error e world) (.error e (seen world))

/-- A way of forcing fixtures that yields what they yield, with maps in any
order; which one may depend on more than on the draws. -/
def ForcesAlike (seen : σ → Supply) (force : Recipe → EStateM ForceFailure σ Value) : Prop :=
  ∀ name recipe recipe' depth,
    Value.Alike (.fixture name recipe depth) (.fixture name recipe' depth) →
      ∀ world, ForcedAlike seen (force recipe world) (recipe'.force (seen world))

section Forcing

variable {v w : Value} {α : Type}

/-- The draws before values that are alike. -/
lemma forced_bind (draw : Force α) {f g : α → Force Value}
    (h : ∀ a supply, ForcedAlike id (f a supply) (g a supply)) (supply : Supply) :
    ForcedAlike id ((draw >>= f) supply) ((draw >>= g) supply) := by
  simp only [bind, EStateM.bind]
  cases draw supply with
  | ok a supply => exact h a supply
  | error => exact .error

lemma forced_pure (h : v.Alike w) (supply : Supply) :
    ForcedAlike id ((pure v : Force Value) supply) ((pure w : Force Value) supply) :=
  .ok h

lemma replicate_alike (n : Nat) (h : v.Alike w) :
    Value.Alike (.array (List.replicate n v)) (.array (List.replicate n w)) := by
  refine Value.alike_array ?_
  induction n with
  | zero => exact .nil
  | succ n ih => exact .cons h ih

/-- As many copies of values that are alike have the same room. -/
lemma forced_repeated (n : Nat) (h : v.Alike w) (supply : Supply) :
    ForcedAlike id (repeated n v supply) (repeated n w supply) := by
  rw [repeated, repeated]
  split
  · exact .ok (replicate_alike n h)
  · exact .error

lemma drawFrom_alike {xs ys : List Value} (h : AllAlike xs ys) (supply : Supply) :
    ForcedAlike id (drawFrom xs .null supply) (drawFrom ys .null supply) := by
  have hmember (i : Nat) : (xs.getD i .null).Alike (ys.getD i .null) := by
    induction h generalizing i with
    | nil => exact Value.alike_null
    | cons hxy _ ih =>
      cases i with
      | zero => exact hxy
      | succ i => exact ih i
  rw [drawFrom, drawFrom, h.length_eq]
  exact forced_bind _ (fun (i : UInt64) => forced_pure (hmember i.toNat)) supply

/-- What scripts build differs from other values in nothing but their maps. -/
lemma force_alike_plain {recipe : Recipe} (h : recipe.isPlain) (supply : Supply) :
    ForcedAlike id (recipe.force supply) (recipe.force supply) := by
  cases recipe with
  | choice | copies | yields => cases h
  | firstName | lastName | between | digits | counts =>
    exact forced_bind _ (fun _ => forced_pure (.scalar rfl)) supply
  | fullName =>
    exact forced_bind _ (fun _ => forced_bind _ fun _ => forced_pure (.scalar rfl)) supply
  | fails => exact .error
  | endless => exact .ok (.plain rfl)

/-- To force fixtures as they are is one way. -/
theorem force_alike : ForcesAlike id Recipe.force := by
  intro name recipe recipe' depth h supply
  cases h with
  | scalar hscalar => cases hscalar
  | plain hplain => exact force_alike_plain hplain supply
  | choice hlength hitems => exact drawFrom_alike (Value.forall₂_of_get hlength hitems) supply
  | yields hvw => exact .ok hvw
  | @copies v w _ low high _ hvw =>
    rw [Recipe.force, Recipe.force]
    split
    · exact forced_repeated low hvw supply
    · exact forced_bind _ (fun (n : Int) => forced_repeated n.toNat hvw) supply

end Forcing

/-! ### Expanding -/

/-- What is seen of a walk. -/
def WalkState.seen (seen : σ → Supply) (s : WalkState σ) : WalkState Supply :=
  ⟨s.visited, seen s.world⟩

section Expanding

variable {σ : Type} {seen : σ → Supply} {force : Recipe → EStateM ForceFailure σ Value}
  {r : Resolver} {v w : Value}

lemma visit_shows (r : Resolver) : Shows (WalkState.seen seen) r.visit r.visit := by
  intro s
  by_cases h : r.maxNodes < s.visited + 1
  · exact (congrArg _ (if_pos h)).trans (if_pos h).symm
  · exact (congrArg _ (if_neg h)).trans (if_neg h).symm

lemma walk_fixture_alike (h : ForcesAlike seen force) {levels depth : Nat} {name : String}
    {recipe recipe' : Recipe}
    (hvw : Value.Alike (.fixture name recipe depth) (.fixture name recipe' depth))
    (ih : ∀ v w, v.Alike w → Shows (WalkState.seen seen) (r.walk force levels v)
      (r.walk Recipe.force levels w)) :
    Shows (WalkState.seen seen) (r.walk force (levels + 1) (.fixture name recipe depth))
      (r.walk Recipe.force (levels + 1) (.fixture name recipe' depth)) := by
  refine (visit_shows r).bind fun _ s => ?_
  have hforced := h name recipe recipe' depth hvw s.world
  simp only [bind, EStateM.bind, Resolver.forcing, WalkState.seen]
  generalize force recipe s.world = r at hforced
  generalize recipe'.force (seen s.world) = r' at hforced
  cases hforced with
  | ok hvw => exact ih _ _ hvw _
  | @error e => cases e <;> rfl

/-- Values that are alike are walked to the same data, with the same draws. -/
theorem walk_alike (h : ForcesAlike seen force) (levels : Nat) (hvw : v.Alike w) :
    Shows (WalkState.seen seen) (r.walk force levels v) (r.walk Recipe.force levels w) := by
  induction levels generalizing v w with
  | zero => exact fun _ => rfl
  | succ levels ih =>
    have hleaf (data : Json) : Shows (WalkState.seen seen)
        (r.visit >>= fun _ => pure data) (r.visit >>= fun _ => pure data) :=
      (visit_shows r).bind fun _ => .pure data
    have hfixture {name recipe recipe' depth}
        (hvw : Value.Alike (.fixture name recipe depth) (.fixture name recipe' depth)) :=
      walk_fixture_alike (r := r) h hvw fun v w => ih
    cases hvw with
    | scalar hscalar =>
      cases v with
      | null | bool | int | float | text => exact hleaf _
      | _ => cases hscalar
    | function | closure | native => exact hleaf .null
    | @array xs ys hlength hitems =>
      have hwalk : Shows (WalkState.seen seen) (xs.mapM (r.walk force levels))
          (ys.mapM (r.walk Recipe.force levels)) :=
        .mapM (fun _ _ hvw => ih hvw) (Value.forall₂_of_get hlength hitems)
      exact (visit_shows r).bind fun _ => hwalk.bind fun data => .pure (Json.array data)
    | @object ms ns hkeys hmembers =>
      have hsorted := (Value.related_of_get? hkeys hmembers).forall₂_sorted
      have hmember (p q : String × Value) (hpq : Bindings.PairRelated Value.Alike p q) :
          Shows (WalkState.seen seen)
            (r.walk force levels p.2 >>= fun data => pure (p.1, data))
            (r.walk Recipe.force levels q.2 >>= fun data => pure (q.1, data)) :=
        (ih hpq.2).bind fun data => hpq.1 ▸ .pure (p.1, data)
      exact (visit_shows r).bind fun _ =>
        (Shows.mapM hmember hsorted).bind fun data => .pure (Json.object data)
    | plain hplain => exact hfixture (.plain hplain)
    | choice hlength hitems => exact hfixture (.choice hlength hitems)
    | copies hvw => exact hfixture (.copies hvw)
    | yields hvw => exact hfixture (.yields hvw)

/-- Expands a value, forcing fixtures in some way. -/
def Program.expand (p : Program) (force : Recipe → EStateM ForceFailure σ Value) (v : Value) :
    EStateM ScriptError σ Json := fun world =>
  match p.resolver.resolve force v world with
  | .ok data world => .ok data world
  | .error (.refused e) world => .error (.resolve e) world
  | .error (.aborted complaint) world => .error (.panicked complaint) world

/-- Expands what a run has ended with. -/
def Program.expandEnd (p : Program) (force : Recipe → EStateM ForceFailure σ Value) :
    EStateM.Result RuntimeError Machine Value → EStateM ScriptError σ Json
  | .ok v _ => p.expand force v
  | .error e _ => throw (.runtime e)

variable {p : Program}

lemma expand_eq_resolve (p : Program) (v : Value) : p.expand Recipe.force v = p.resolve v := by
  funext supply
  rw [Program.expand, Program.resolve]
  cases p.resolver.resolve Recipe.force v supply with
  | ok => rfl
  | error stop => cases stop <;> rfl

lemma expandEnd_eq_sample (p : Program) : p.expandEnd Recipe.force
    (Run.script ⟨p.limits, Program.helpers p.limits, 0⟩ p.code Machine.start) = p.sample := by
  funext supply
  rw [Program.sample, Program.invoke]
  cases Run.script ⟨p.limits, Program.helpers p.limits, 0⟩ p.code Machine.start with
  | ok v => exact congrFun (expand_eq_resolve p v) supply
  | error => rfl

lemma expand_alike (h : ForcesAlike seen force) (hvw : v.Alike w) :
    Shows seen (p.expand force v) (p.expand Recipe.force w) := by
  intro world
  have hwalk := walk_alike (r := p.resolver) h (p.resolver.maxDepth + 1) hvw ⟨0, world⟩
  simp only [Program.expand, Resolver.resolve]
  generalize p.resolver.walk force _ v ⟨0, world⟩ = r at hwalk
  rw [show p.resolver.walk Recipe.force _ w ⟨0, seen world⟩ = _ from hwalk.symm]
  cases r with
  | ok => rfl
  | error stop => cases stop <;> rfl

/-- Ends that are alike are expanded to the same data, with the same draws. -/
theorem expandEnd_alike (h : ForcesAlike seen force)
    {r r' : EStateM.Result RuntimeError Machine Value} (hr : EndsAlike Value.Alike r r') :
    Shows seen (p.expandEnd force r) (p.expandEnd Recipe.force r') := by
  cases hr with
  | ok hvw => exact expand_alike h hvw
  | error => exact fun _ => rfl

end Expanding

end MockupStudio.Script
