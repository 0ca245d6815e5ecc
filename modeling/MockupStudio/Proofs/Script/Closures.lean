/-
Calls see what their functions captured, and nothing of their callers.

* `Run.Roomy`: a depth that holds whatever a run may open before it passes the
  step limit; `apply_eq_of_roomy`: beyond that, the depth does not matter;
* `SameEnd`: two parts of a run end with the same value or error, after as
  many steps; `sameEnd_apply`: so do two calls from machines that differ in
  their scopes and in the expressions that are open;
* `lookup_flattened`: a snapshot of some scopes has the value of every name;
* `Run.Makes`: functions made from the variables of a machine;
* `Run.RunsOver`: the scopes over which a function runs its body, whoever
  calls it;
* `calls_closed`: what that comes to.
-/
import MockupStudio.Proofs.Bindings
import MockupStudio.Proofs.Script.Agreement

namespace MockupStudio.Script

/-! ### How deep a run may go -/

/-- Room for whatever a run may open before it passes the step limit. -/
def Run.Roomy (run : Run) (depth : Nat) (m : Machine) : Prop :=
  0 < depth ∧ run.limits.maxSteps < depth + m.steps

section Depths

variable {run : Run} {depth depth' : Nat} {m : Machine}

lemma roomy_depthLimit (run : Run) (m : Machine) : run.Roomy run.depthLimit m :=
  ⟨Nat.succ_pos _, Nat.lt_add_right _ (Nat.lt_succ_self _)⟩

/-- Once the step limit is passed, no statement runs. -/
lemma execute_of_passed (hdepth : 0 < depth) (hsteps : run.limits.maxSteps < m.steps)
    (place : List Nat) (s : Stmt) : run.execute depth place s m
      = .error (.stepLimit run.limits.maxSteps) { m with steps := m.steps + 1 } := by
  obtain ⟨depth, rfl⟩ := Nat.exists_eq_succ_of_ne_zero (Nat.ne_of_gt hdepth)
  rw [Run.execute.eq_def]
  exact bind_error_iff.mpr (.inl (if_pos (Nat.lt_succ_of_lt hsteps)))

lemma sequence_of_passed (h : 0 < depth) (h' : 0 < depth')
    (hsteps : run.limits.maxSteps < m.steps) (place : List Nat) (i : Nat) (last : Value)
    (body : List Stmt) : Run.sequence (run.execute depth) place i last body m
      = Run.sequence (run.execute depth') place i last body m := by
  cases body with
  | nil => rfl
  | cons s rest =>
    simp only [Run.sequence, execute_of_passed h hsteps, execute_of_passed h' hsteps]

/-- With room enough, how much there is makes no difference to a call. -/
theorem apply_eq_of_roomy (h : run.Roomy depth m) (h' : run.Roomy depth' m) (f : Value)
    (arguments : List Value) : run.apply (run.execute depth) f arguments m
      = run.apply (run.execute depth') f arguments m := by
  by_cases hsteps : m.steps ≤ run.limits.maxSteps
  · have hleads := performs_call (performsAll h.2) f arguments m [] (Nat.le_refl _) hsteps
    have hleads' := performs_call (performsAll h'.2) f arguments m [] (Nat.le_refl _) hsteps
    exact ended_injective (hleads.unique hleads' (step?_ended _) (step?_ended _))
  · have hpassed : run.limits.maxSteps < m.steps := Nat.not_le.mp hsteps
    cases f with
    | function name parameters body captured id =>
      have hbody (scopes : List Scope) :
          Run.inCall scopes
              (Run.sequence (run.execute depth) (Run.bodyPlace id) 0 .null body) m
            = Run.inCall scopes
              (Run.sequence (run.execute depth') (Run.bodyPlace id) 0 .null body) m := by
        have hsequence := sequence_of_passed (m := ⟨scopes, m.steps, m.callDepth + 1, 0⟩)
          h.1 h'.1 hpassed (Run.bodyPlace id) 0 .null body
        simp only [Run.inCall, hsequence]
      rw [Run.apply_function, Run.apply_function, hbody]
    | _ => rfl

end Depths

/-! ### Callers -/

/-- Two ends with the same value or the same error, after as many steps. -/
inductive SameEnd : EStateM.Result RuntimeError Machine α → EStateM.Result RuntimeError Machine α →
    Prop where
  | ok : m.steps = m'.steps → SameEnd (.ok a m) (.ok a m')
  | error : m.steps = m'.steps → SameEnd (.error e m) (.error e m')

section Callers

variable {run : Run} {m m' : Machine}

lemma sameEnd_callResult (flow : Flow) (h : m.steps = m'.steps) :
    SameEnd (Run.callResult flow m) (Run.callResult flow m') := by
  cases flow with
  | returned | normal => exact .ok h
  | leftLoop | nextTurn => exact .error h

lemma sameEnd_callNative (f : Native) (arguments : List Value) (h : m.steps = m'.steps) :
    SameEnd (run.callNative f arguments m) (run.callNative f arguments m') := by
  rw [Run.callNative]
  cases f.call arguments run.globals.host with
  | error message => exact .error h
  | ok v =>
    simp only [Run.bounded]
    split
    · exact .error h
    · exact .ok h

/-- A call from two machines that differ in nothing but their scopes and the
expressions that are open. -/
lemma sameEnd_apply_exec (exec : List Nat → Stmt → Eval Flow) (f : Value)
    (arguments : List Value) (hsteps : m.steps = m'.steps) (hcalls : m.callDepth = m'.callDepth) :
    SameEnd (run.apply exec f arguments m) (run.apply exec f arguments m') := by
  cases f with
  | function name parameters body captured id =>
    rw [Run.apply_function, Run.apply_function, hcalls]
    split
    · exact .error hsteps
    · split
      · exact .error hsteps
      · rw [Run.inCall, Run.inCall, hsteps, hcalls]
        generalize Run.sequence exec _ _ _ _ _ = r
        cases r with
        | ok flow _ => exact sameEnd_callResult flow rfl
        | error => exact .error rfl
  | native f => exact sameEnd_callNative f arguments hsteps
  | _ => exact .error hsteps

/-- A call ends in the same way wherever it is made. -/
theorem sameEnd_apply {depth depth' : Nat} (hroom : run.Roomy depth m)
    (hroom' : run.Roomy depth' m') (f : Value) (arguments : List Value)
    (hsteps : m.steps = m'.steps) (hcalls : m.callDepth = m'.callDepth) :
    SameEnd (run.apply (run.execute depth) f arguments m)
      (run.apply (run.execute depth') f arguments m') := by
  have hroom : run.Roomy depth m' := ⟨hroom.1, hsteps ▸ hroom.2⟩
  rw [← apply_eq_of_roomy hroom hroom']
  exact sameEnd_apply_exec _ f arguments hsteps hcalls

end Callers

/-! ### Captured variables -/

section Captured

variable {scopes : List Scope} {captured : Scope} {name x : String}

/-- A snapshot has the value of every name. -/
lemma lookup_flattened (h : ∀ scope ∈ scopes, (Bindings.keys scope).Nodup) :
    Bindings.get? x (flattened scopes) = lookup x scopes := by
  induction scopes with
  | nil => rfl
  | cons scope outer ih =>
    rw [List.forall_mem_cons] at h
    have hcons : flattened (scope :: outer) = Bindings.insertAll (flattened outer) scope := rfl
    rw [hcons, Bindings.get?_insertAll h.1, ih h.2, lookup]
    cases Bindings.get? x scope <;> rfl

/-- Parameters hide nothing but what has their names. -/
lemma get?_parameters {parameters : List String} (arguments : List Value) (hx : x ∉ parameters) :
    Bindings.get? x (Bindings.ofList (parameters.zip arguments)) = none := by
  refine Bindings.get?_insertAll_of_notMem fun hmem => hx ?_
  obtain ⟨b, hb, rfl⟩ := List.mem_map.mp hmem
  exact (List.of_mem_zip hb).1

/-- The body of a function finds what the function has captured, but for its
parameters and its own name. -/
lemma lookup_callScopes {f : Value} {parameters : List String} (arguments : List Value)
    (hx : x ∉ parameters) (hname : name = lambdaName ∨ x ≠ name) :
    lookup x (Run.callScopes f name parameters (some captured) arguments)
      = Bindings.get? x captured := by
  have houter : Bindings.get? x
      (if name = lambdaName then captured else Bindings.insert name f captured)
        = Bindings.get? x captured := by
    split
    · rfl
    · next hnamed => rw [Bindings.get?_insert, if_neg (hname.resolve_left hnamed).symm]
  simp only [Run.callScopes, Option.getD_some, lookup, get?_parameters arguments hx, houter]
  cases Bindings.get? x captured <;> rfl

end Captured

/-! ### Functions -/

/-- A function made by a lambda or a declaration, from the variables of a
machine; the names are those that it binds itself. -/
inductive Run.Makes (run : Run) (m : Machine) : List String → Value → Prop where
  | lambda : run.evaluate depth (.lambda parameters body) m = .ok f m' →
      Makes run m parameters f
  | declaration : run.execute depth place (.function name parameters body) m = .ok flow m' →
      lookup name m'.scopes = some f → Makes run m (name :: parameters) f

/-- The scopes over which a function runs its body, whoever calls it and
whatever has happened before, if the call is let in. -/
def Run.RunsOver (run : Run) (f : Value) (arguments : List Value) (scopes : List Scope) : Prop :=
  ∃ name parameters body captured id, f = .function name parameters body captured id ∧
    ∀ exec m, run.apply exec f arguments m =
      if arguments.length ≠ parameters.length then
        .error (.arity name parameters.length arguments.length) m
      else if run.limits.maxCallDepth ≤ m.callDepth then
        .error (.callDepth run.limits.maxCallDepth) m
      else
        match inCall scopes (sequence exec (bodyPlace id) 0 .null body) m with
        | .ok flow m => callResult flow m
        | .error e m => .error e m

section Functions

variable {run : Run} {m m' : Machine} {f : Value} {name : String} {parameters : List String}
  {body : List Stmt} {id : FunctionId}

lemma runsOver_callScopes (captured : Option Scope) (arguments : List Value) :
    run.RunsOver (.function name parameters body captured id) arguments
      (Run.callScopes (.function name parameters body captured id) name parameters captured
        arguments) :=
  ⟨name, parameters, body, captured, id, rfl, fun _ _ => Run.apply_function _ _ _ _ _ _ _ _⟩

lemma closure_ok (h : run.closure name parameters body id m = .ok f m') :
    f = .function name parameters body (some (flattened m.scopes)) id ∧ m' = m := by
  rw [Run.closure, Run.bounded] at h
  split at h <;> cases h
  exact ⟨rfl, rfl⟩

lemma tick_ok {u : Unit} (h : run.tick m = .ok u m') : m'.scopes = m.scopes := by
  rw [Run.tick] at h
  dsimp only at h
  split at h <;> cases h
  rfl

lemma deeper_ok {part : Eval Value} {v : Value} (h : run.deeper part m = .ok v m') :
    ∃ t, part { m with evalDepth := m.evalDepth + 1 } = .ok v t := by
  rw [Run.deeper] at h
  split at h
  · cases h
  · split at h <;> cases h
    next t hpart => exact ⟨t, hpart⟩

/-- A function has captured all variables, under a name that hides at most what
it binds itself. -/
lemma Run.Makes.captured {hidden : List String} (h : run.Makes m hidden f) :
    ∃ name parameters body id,
      f = .function name parameters body (some (flattened m.scopes)) id ∧
        ∀ x ∉ hidden, x ∉ parameters ∧ (name = lambdaName ∨ x ≠ name) := by
  cases h with
  | @lambda depth parameters body _ _ h =>
    cases depth with
    | zero => cases h
    | succ depth =>
      rw [Run.evaluate.eq_def] at h
      obtain ⟨_, hpart⟩ := deeper_ok h
      obtain ⟨_, t, htick, hpart⟩ := bind_ok_iff.mp hpart
      obtain ⟨rfl, -⟩ := closure_ok hpart
      rw [tick_ok htick]
      exact ⟨_, _, _, _, rfl, fun x hx => ⟨hx, .inl rfl⟩⟩
  | @declaration depth place name parameters body flow m' _ h hf =>
    cases depth with
    | zero => cases h
    | succ depth =>
      rw [Run.execute.eq_def] at h
      obtain ⟨_, t, htick, h⟩ := bind_ok_iff.mp h
      obtain ⟨g, t', hclosure, h⟩ := bind_ok_iff.mp h
      obtain ⟨rfl, rfl⟩ := closure_ok hclosure
      cases h
      change lookup name (Script.define name _ t'.scopes) = some f at hf
      cases hscopes : t'.scopes with
      | nil =>
        rw [hscopes] at hf
        cases hf
      | cons scope outer =>
        rw [hscopes, Script.define, lookup, Bindings.get?_insert, if_pos rfl] at hf
        cases hf
        rw [← hscopes, tick_ok htick]
        refine ⟨_, _, _, _, rfl, fun x hx => ?_⟩
        rw [List.mem_cons, not_or] at hx
        exact ⟨hx.2, .inr hx.1⟩

/-- At the start of every call, a function finds under each name that it does
not bind itself what the name stood for when the function was made. -/
theorem Run.Makes.runsOver {hidden : List String} (h : run.Makes m hidden f)
    (hdistinct : ∀ scope ∈ m.scopes, (Bindings.keys scope).Nodup) (arguments : List Value) :
    ∃ scopes, run.RunsOver f arguments scopes ∧ ∀ x ∉ hidden,
      (Environment.mk scopes run.helpers).get? x = (Environment.mk m.scopes run.helpers).get? x := by
  obtain ⟨name, parameters, body, id, rfl, hhidden⟩ := h.captured
  refine ⟨_, runsOver_callScopes _ arguments, fun x hx => ?_⟩
  obtain ⟨hparameters, hname⟩ := hhidden x hx
  rw [Environment.get?, Environment.get?, lookup_callScopes arguments hparameters hname,
    lookup_flattened hdistinct]

/-- Calls are closed: they end in the same way wherever they are made, and
their bodies begin with the variables that were there when the function was
made. -/
theorem calls_closed (run : Run) :
    (∀ f arguments depth depth' m m', run.Roomy depth m → run.Roomy depth' m' →
      m.steps = m'.steps → m.callDepth = m'.callDepth →
        SameEnd (run.apply (run.execute depth) f arguments m)
          (run.apply (run.execute depth') f arguments m'))
    ∧ ∀ m hidden f, (∀ scope ∈ m.scopes, (Bindings.keys scope).Nodup) → run.Makes m hidden f →
      ∀ arguments, ∃ scopes, run.RunsOver f arguments scopes ∧ ∀ x ∉ hidden,
        (Environment.mk scopes run.helpers).get? x
          = (Environment.mk m.scopes run.helpers).get? x :=
  ⟨fun f arguments _ _ _ _ hroom hroom' hsteps hcalls =>
      sameEnd_apply hroom hroom' f arguments hsteps hcalls,
    fun _ _ _ hdistinct h arguments => h.runsOver hdistinct arguments⟩

/-- A machine with a variable `factor` in each of two scopes. -/
def underTwoFactors : Machine :=
  ⟨[[("factor", .int 3)], [("factor", .int 2), ("unit", .text "px")]], 4, 0, 1⟩

/-- `n * factor` -/
def factorBody : Expr := .binary .mul (.name "n") (.name "factor")

/-- What `(n) => n * factor` gives there. -/
def scaled : Value :=
  .function lambdaName ["n"] [.result (some factorBody)] (some (flattened underTwoFactors.scopes))
    (.evaluated 0 5)

lemma makes_scaled : Run.Makes ⟨{}, .none, 0⟩ underTwoFactors ["n"] scaled :=
  have h : Run.evaluate ⟨{}, .none, 0⟩ 1 (.lambda ["n"] factorBody) underTwoFactors
      = .ok scaled { underTwoFactors with steps := 5 } := rfl
  .lambda h

/-- The theorem at that function: called where it was made and with other
variables, expressions open and room left, and about the scopes of its body. -/
theorem calls_closed_scaled :
    SameEnd (Run.apply ⟨{}, .none, 0⟩
        (Run.execute ⟨{}, .none, 0⟩ (Run.depthLimit ⟨{}, .none, 0⟩)) scaled [.int 7]
        underTwoFactors)
      (Run.apply ⟨{}, .none, 0⟩ (Run.execute ⟨{}, .none, 0⟩ 2000000) scaled [.int 7]
        ⟨[[("factor", .null)]], 4, 0, 9⟩)
    ∧ ∃ scopes, Run.RunsOver ⟨{}, .none, 0⟩ scaled [.int 7] scopes ∧ ∀ x ∉ ["n"],
        (Environment.mk scopes []).get? x
          = (Environment.mk underTwoFactors.scopes []).get? x :=
  ⟨(calls_closed _).1 _ _ _ _ _ _ (roomy_depthLimit _ _) ⟨by decide, by decide⟩ rfl rfl,
    (calls_closed _).2 _ _ _ (by decide) makes_scaled _⟩

end Functions

end MockupStudio.Script
