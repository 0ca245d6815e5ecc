/-
What expressions and statements leave of the scopes.

* `Machine.Restored`: a machine as it was, but for the steps counted since;
* `Extended`: scopes in which no name has gone and none but the innermost has
  new ones; `Machine.Extended`: the same of a machine whose depths are as they
  were;
* `Leaves`: a part of a run that leaves the machine in such a relation to what
  it was, whether it succeeds or fails;
* `leaves_evaluate_execute`: expressions restore the machine and statements
  extend it, by induction on how deep they may be open inside one another;
* `scopes_after`: what that comes to.
-/
import MockupStudio.Proofs.Bindings
import MockupStudio.Proofs.Script.Agreement

namespace MockupStudio.Script

/-! ### Scopes with more names -/

/-- Scopes in which no name has gone and none but the innermost has new ones. -/
def Extended : List Scope → List Scope → Prop
  | inner :: outer, inner' :: outer' =>
    Bindings.keys inner ⊆ Bindings.keys inner' ∧ outer'.map Bindings.keys = outer.map Bindings.keys
  | _, _ => False

section Extended

variable {scopes scopes' scopes'' : List Scope} {name : String} {v : Value}

lemma Extended.of_keys (h : scopes'.map Bindings.keys = scopes.map Bindings.keys)
    (hne : scopes ≠ []) : Extended scopes scopes' := by
  match scopes, scopes', hne, h with
  | inner :: outer, [], _, h => cases h
  | inner :: outer, inner' :: outer', _, h =>
    rw [List.map_cons, List.map_cons, List.cons.injEq] at h
    exact ⟨h.1 ▸ List.Subset.refl _, h.2⟩

lemma extended_self_iff : Extended scopes scopes ↔ scopes ≠ [] := by
  refine ⟨?_, .of_keys rfl⟩
  rintro h rfl
  exact h

lemma Extended.trans (h : Extended scopes scopes') (h' : Extended scopes' scopes'') :
    Extended scopes scopes'' := by
  match scopes, scopes', scopes'', h, h' with
  | _ :: _, _ :: _, _ :: _, h, h' => exact ⟨List.Subset.trans h.1 h'.1, h'.2.trans h.2⟩

lemma Extended.ne_nil (h : Extended scopes scopes') : scopes' ≠ [] := by
  match scopes, scopes', h with
  | _ :: _, _ :: _, _ => exact List.cons_ne_nil _ _

lemma extended_define (hne : scopes ≠ []) : Extended scopes (define name v scopes) := by
  match scopes, hne with
  | inner :: outer, _ =>
    refine ⟨?_, rfl⟩
    rw [Bindings.keys_insert]
    split
    · exact List.Subset.refl _
    · exact List.subset_append_left _ _

/-- An assignment makes no new names. -/
lemma keys_of_assign (h : assign? name v scopes = some scopes') :
    scopes'.map Bindings.keys = scopes.map Bindings.keys := by
  induction scopes generalizing scopes' with
  | nil => cases h
  | cons scope outer ih =>
    rw [assign?, Scope.assign?] at h
    split at h
    · next scope' hscope =>
      split at hscope
      · next hbound =>
        cases hscope
        cases h
        rw [Bindings.contains_eq_isSome, ← Bindings.mem_keys_iff] at hbound
        rw [List.map_cons, List.map_cons, Bindings.keys_insert, if_pos hbound]
      · cases hscope
    · obtain ⟨outer', houter, rfl⟩ := Option.map_eq_some_iff.mp h
      rw [List.map_cons, List.map_cons, ih houter]

/-- A scope that was opened is closed again. -/
lemma Extended.popped (h : Extended ([] :: scopes) scopes') (hne : scopes ≠ []) :
    Extended scopes (popped scopes') := by
  match scopes', h with
  | _ :: [], h => exact absurd (List.map_eq_nil_iff.mp h.2.symm) hne
  | _ :: _ :: _, h => exact .of_keys h.2 hne

end Extended

/-! ### Machines -/

/-- A machine as it was, but for the steps that have been counted since. -/
structure Machine.Restored (m m' : Machine) : Prop where
  scopes : m'.scopes = m.scopes
  callDepth : m'.callDepth = m.callDepth
  evalDepth : m'.evalDepth = m.evalDepth
  steps : m.steps ≤ m'.steps

/-- A machine with its depths as they were, and no new names but in the
innermost scope. -/
structure Machine.Extended (m m' : Machine) : Prop where
  scopes : Script.Extended m.scopes m'.scopes
  callDepth : m'.callDepth = m.callDepth
  evalDepth : m'.evalDepth = m.evalDepth
  steps : m.steps ≤ m'.steps

/-- The machine that a part of a run leaves, however it ends. -/
def machineLeft : EStateM.Result RuntimeError Machine α → Machine
  | .ok _ m => m
  | .error _ m => m

/-- A part of a run leaves a machine that stands in a relation to the one
before it, of those machines that stand in it to themselves. -/
def Leaves (R : Machine → Machine → Prop) (part : Eval α) : Prop :=
  ∀ m, R m m → R m (machineLeft (part m))

/-- A relation that may be kept by one part of a run after the other. -/
structure Lasting (R : Machine → Machine → Prop) : Prop where
  again {m m'} : R m m' → R m' m'
  trans {m m' m''} : R m m' → R m' m'' → R m m''
  restored {m m'} : R m m → m.Restored m' → R m m'

section Machines

variable {m m' : Machine} {scopes : List Scope}

@[refl] lemma Machine.Restored.refl (m : Machine) : m.Restored m :=
  ⟨rfl, rfl, rfl, Nat.le_refl _⟩

lemma lasting_restored : Lasting Machine.Restored where
  again _ := .refl _
  trans h h' := ⟨h'.scopes.trans h.scopes, h'.callDepth.trans h.callDepth,
    h'.evalDepth.trans h.evalDepth, Nat.le_trans h.steps h'.steps⟩
  restored _ h := h

lemma Machine.Extended.of_scopes (h : Script.Extended m.scopes scopes) :
    m.Extended { m with scopes } :=
  ⟨h, rfl, rfl, Nat.le_refl _⟩

lemma Machine.extended_self (h : m.scopes ≠ []) : m.Extended m :=
  .of_scopes (extended_self_iff.mpr h)

lemma Machine.Extended.ne_nil (h : m.Extended m') : m'.scopes ≠ [] := h.scopes.ne_nil

lemma lasting_extended : Lasting Machine.Extended where
  again h := Machine.extended_self h.ne_nil
  trans h h' := ⟨h.scopes.trans h'.scopes, h'.callDepth.trans h.callDepth,
    h'.evalDepth.trans h.evalDepth, Nat.le_trans h.steps h'.steps⟩
  restored hm h := ⟨h.scopes ▸ hm.scopes, h.callDepth, h.evalDepth, h.steps⟩

end Machines

/-! ### Parts of a run -/

section Parts

variable {run : Run} {R : Machine → Machine → Prop} {α β : Type} {part : Eval α}

lemma Leaves.of_restored (hR : Lasting R) (h : Leaves Machine.Restored part) : Leaves R part :=
  fun m hm => hR.restored hm (h m (.refl m))

lemma Leaves.bind (hR : Lasting R) {next : α → Eval β} (h : Leaves R part)
    (hnext : ∀ a, Leaves R (next a)) : Leaves R (part >>= next) := by
  intro m hm
  have hpart := h m hm
  simp only [Bind.bind, EStateM.bind]
  generalize part m = r at hpart
  cases r with
  | ok a m' => exact hR.trans hpart (hnext a m' (hR.again hpart))
  | error e m' => exact hpart

lemma leaves_pure (R : Machine → Machine → Prop) (a : α) : Leaves R (pure a) := fun _ hm => hm

lemma leaves_throw (R : Machine → Machine → Prop) (e : RuntimeError) :
    Leaves R (throw e : Eval α) := fun _ hm => hm

lemma leaves_lift (r : Except RuntimeError α) : Leaves Machine.Restored (Run.lift r) := by
  intro m hm
  cases r <;> exact hm

lemma leaves_bounded (v : Value) : Leaves Machine.Restored (run.bounded v) := by
  intro m hm
  rw [Run.bounded]
  split <;> exact hm

lemma leaves_read (name : String) : Leaves Machine.Restored (run.read name) := by
  intro m hm
  rw [Run.read]
  split <;> exact hm

lemma leaves_closure (name : String) (parameters : List String) (body : List Stmt)
    (id : FunctionId) : Leaves Machine.Restored (run.closure name parameters body id) :=
  fun m hm => leaves_bounded _ m hm

lemma leaves_tick : Leaves Machine.Restored run.tick := by
  intro m _
  have hcounted : m.Restored { m with steps := m.steps + 1 } := ⟨rfl, rfl, rfl, Nat.le_succ _⟩
  rw [Run.tick]
  dsimp only
  split <;> exact hcounted

lemma leaves_define (name : String) (v : Value) : Leaves Machine.Extended (Run.define name v) :=
  fun _ hm => .of_scopes (extended_define hm.ne_nil)

lemma leaves_assign (name : String) (v : Value) : Leaves Machine.Extended (run.assign name v) := by
  intro m hm
  rw [Run.assign, Environment.assign]
  cases h : assign? name v m.scopes with
  | some scopes => exact .of_scopes (.of_keys (keys_of_assign h) hm.ne_nil)
  | none =>
    simp only
    split
    · next hs => split at hs <;> cases hs
    · exact hm
    · exact hm

lemma Leaves.mapM {part : β → Eval α} (h : ∀ b, Leaves Machine.Restored (part b))
    (items : List β) : Leaves Machine.Restored (items.mapM part) := by
  induction items with
  | nil => exact leaves_pure _ _
  | cons item items ih =>
    rw [List.mapM_cons]
    exact (h item).bind lasting_restored fun a => ih.bind lasting_restored fun as =>
      leaves_pure _ _

lemma Leaves.inScope (h : Leaves Machine.Extended part) :
    Leaves Machine.Extended (Run.inScope part) := by
  intro m hm
  have hpart := h { m with scopes := [] :: m.scopes } (Machine.extended_self (List.cons_ne_nil _ _))
  rw [Run.inScope]
  generalize part { m with scopes := [] :: m.scopes } = r at hpart
  cases r <;>
    exact ⟨hpart.scopes.popped hm.ne_nil, hpart.callDepth, hpart.evalDepth, hpart.steps⟩

lemma Leaves.deeper {part : Eval Value} (h : Leaves Machine.Restored part) :
    Leaves Machine.Restored (run.deeper part) := by
  intro m hm
  rw [Run.deeper]
  split
  · exact hm
  · have hpart := h { m with evalDepth := m.evalDepth + 1 } (.refl _)
    generalize part { m with evalDepth := m.evalDepth + 1 } = r at hpart
    cases r <;>
      exact ⟨hpart.scopes, hpart.callDepth, Nat.sub_eq_of_eq_add hpart.evalDepth, hpart.steps⟩

/-- A call gives the scopes of the caller back, whatever the body does to its
own. -/
lemma Leaves.inCall {scopes : List Scope} (hscopes : scopes ≠ [])
    (h : Leaves Machine.Extended part) : Leaves Machine.Restored (Run.inCall scopes part) := by
  intro m _
  have hpart := h ⟨scopes, m.steps, m.callDepth + 1, 0⟩ (Machine.extended_self hscopes)
  rw [Run.inCall]
  generalize part ⟨scopes, m.steps, m.callDepth + 1, 0⟩ = r at hpart
  cases r <;>
    exact ⟨rfl, Nat.sub_eq_of_eq_add hpart.callDepth, rfl, hpart.steps⟩

/-! ### Sequences and loops -/

lemma leaves_sequence {exec : List Nat → Stmt → Eval Flow}
    (hexec : ∀ place s, Leaves Machine.Extended (exec place s)) (place : List Nat) (i : Nat)
    (last : Value) (body : List Stmt) :
    Leaves Machine.Extended (Run.sequence exec place i last body) := by
  induction body generalizing i last with
  | nil => exact leaves_pure _ _
  | cons s rest ih =>
    rw [sequence_cons]
    refine (hexec _ s).bind lasting_extended fun flow => ?_
    cases flow with
    | normal v => exact ih (i + 1) v
    | _ => exact leaves_pure _ _

lemma leaves_whileLoop {condition : Eval Value} {body : Eval Flow}
    (hcondition : Leaves Machine.Extended condition) (hbody : Leaves Machine.Extended body)
    (turns : Nat) : Leaves Machine.Extended (run.whileLoop condition body turns) := by
  induction turns with
  | zero => exact leaves_throw _ _
  | succ turns ih =>
    rw [whileLoop_succ]
    refine hcondition.bind lasting_extended fun v => ?_
    split
    · refine hbody.bind lasting_extended fun flow => ?_
      cases flow with
      | normal | nextTurn => exact ih
      | returned | leftLoop => exact leaves_pure _ _
    · exact leaves_pure _ _

lemma leaves_eachLoop (item : String) {body : Eval Flow} (hbody : Leaves Machine.Extended body)
    (vs : List Value) : Leaves Machine.Extended (Run.eachLoop item body vs) := by
  induction vs with
  | nil => exact leaves_pure _ _
  | cons v vs ih =>
    rw [eachLoop_cons]
    refine (leaves_define item v).bind lasting_extended fun _ =>
      hbody.bind lasting_extended fun flow => ?_
    cases flow with
    | normal | nextTurn => exact ih
    | returned | leftLoop => exact leaves_pure _ _

/-! ### Calls -/

lemma leaves_callResult (flow : Flow) : Leaves Machine.Restored (Run.callResult flow) := by
  cases flow with
  | returned | normal => exact leaves_pure _ _
  | leftLoop | nextTurn => exact leaves_throw _ _

lemma leaves_apply {exec : List Nat → Stmt → Eval Flow}
    (hexec : ∀ place s, Leaves Machine.Extended (exec place s)) (f : Value)
    (arguments : List Value) : Leaves Machine.Restored (run.apply exec f arguments) := by
  cases f with
  | function name parameters body captured id =>
    intro m hm
    rw [Run.apply_function]
    split
    · exact hm
    · split
      · exact hm
      · have hscopes : Run.callScopes (.function name parameters body captured id) name parameters
            captured arguments ≠ [] := List.cons_ne_nil _ _
        have hbody := (leaves_sequence hexec (Run.bodyPlace id) 0 .null body).inCall hscopes m hm
        generalize Run.inCall _ _ m = r at hbody
        cases r with
        | ok flow m' => exact lasting_restored.trans hbody (leaves_callResult flow m' (.refl m'))
        | error e m' => exact hbody
  | native f =>
    change Leaves _ (run.callNative f arguments)
    rw [Run.callNative]
    split
    · exact leaves_bounded _
    · exact leaves_throw _ _
  | _ => exact leaves_throw _ _

end Parts

/-! ### Expressions and statements -/

section Evaluation

variable {run : Run}

lemma leaves_evaluate_succ {depth : Nat}
    (heval : ∀ e, Leaves Machine.Restored (run.evaluate depth e))
    (hexec : ∀ place s, Leaves Machine.Extended (run.execute depth place s)) (e : Expr) :
    Leaves Machine.Restored (run.evaluate (depth + 1) e) := by
  rw [Run.evaluate.eq_def]
  refine Leaves.deeper (leaves_tick.bind lasting_restored fun _ => ?_)
  cases e with
  | literal l => exact leaves_pure _ _
  | name x => exact leaves_read x
  | binary op left right =>
    refine (heval left).bind lasting_restored fun a => ?_
    split
    · exact leaves_pure _ _
    · refine (heval right).bind lasting_restored fun b => ?_
      split
      · exact leaves_pure _ _
      · exact leaves_lift _
  | unary op operand => exact (heval operand).bind lasting_restored fun v => leaves_lift _
  | call callee arguments =>
    exact (heval callee).bind lasting_restored fun f =>
      (Leaves.mapM heval arguments).bind lasting_restored fun vs => leaves_apply hexec f vs
  | index object key =>
    exact (heval object).bind lasting_restored fun o =>
      (heval key).bind lasting_restored fun k => leaves_lift _
  | member object key => exact (heval object).bind lasting_restored fun o => leaves_lift _
  | array items =>
    exact (Leaves.mapM heval items).bind lasting_restored fun vs => leaves_bounded _
  | object members =>
    have hmember (member : String × Expr) : Leaves Machine.Restored
        (do let v ← run.evaluate depth member.2; pure (member.1, v)) :=
      (heval member.2).bind lasting_restored fun v => leaves_pure _ _
    exact (Leaves.mapM hmember members).bind lasting_restored fun ms => leaves_bounded _
  | lambda parameters body => exact fun m hm => leaves_closure _ _ _ _ m hm

lemma leaves_execute_succ {depth : Nat}
    (heval : ∀ e, Leaves Machine.Extended (run.evaluate depth e))
    (hexec : ∀ place s, Leaves Machine.Extended (run.execute depth place s)) (place : List Nat)
    (s : Stmt) : Leaves Machine.Extended (run.execute (depth + 1) place s) := by
  rw [Run.execute.eq_def]
  refine (leaves_tick.of_restored lasting_extended).bind lasting_extended fun _ => ?_
  cases s with
  | expr e => exact (heval e).bind lasting_extended fun v => leaves_pure _ _
  | declare x value =>
    exact (heval _).bind lasting_extended fun v =>
      (leaves_define x v).bind lasting_extended fun _ => leaves_pure _ _
  | assign x value =>
    exact (heval value).bind lasting_extended fun v =>
      (leaves_assign x v).bind lasting_extended fun _ => leaves_pure _ _
  | block body => exact (leaves_sequence hexec place 0 .null body).inScope
  | branch condition body otherwise =>
    refine (heval condition).bind lasting_extended fun c => ?_
    split
    · exact hexec _ _
    · cases otherwise with
      | nothing => exact leaves_pure _ _
      | block => exact hexec _ _
      | branch => exact hexec _ _
  | loop condition body => exact leaves_whileLoop (heval condition) (hexec _ _) _
  | each item source body =>
    exact (heval source).bind lasting_extended fun v =>
      ((leaves_lift _).of_restored lasting_extended).bind lasting_extended fun vs =>
        (leaves_eachLoop item (hexec _ _) vs).inScope
  | function name parameters body =>
    exact ((leaves_closure _ _ _ _).of_restored lasting_extended).bind lasting_extended fun f =>
      (leaves_define name f).bind lasting_extended fun _ => leaves_pure _ _
  | result value =>
    cases value with
    | none => exact leaves_pure _ _
    | some e => exact (heval e).bind lasting_extended fun v => leaves_pure _ _
  | leaveLoop | nextTurn => exact leaves_pure _ _

/-- Expressions restore the machine, and statements leave no scope without a
name that it had. -/
theorem leaves_evaluate_execute (run : Run) (depth : Nat) :
    (∀ e, Leaves Machine.Restored (run.evaluate depth e))
      ∧ ∀ place s, Leaves Machine.Extended (run.execute depth place s) := by
  induction depth with
  | zero => exact ⟨fun _ => leaves_throw _ _, fun _ _ => leaves_throw _ _⟩
  | succ depth ih =>
    obtain ⟨heval, hexec⟩ := ih
    exact ⟨leaves_evaluate_succ heval hexec,
      leaves_execute_succ (fun e => (heval e).of_restored lasting_extended) hexec⟩

/-- From a machine with a scope, an expression ends with every scope and both
depths as they were, and a statement with as many scopes as there were, the
same names in the outer ones, all that there were in the innermost one, and
both depths as they were. -/
theorem scopes_after (run : Run) (depth : Nat) (m : Machine) (h : m.scopes ≠ []) :
    (∀ e, m.Restored (machineLeft (run.evaluate depth e m)))
      ∧ ∀ place s, m.Extended (machineLeft (run.execute depth place s m)) := by
  obtain ⟨heval, hexec⟩ := leaves_evaluate_execute run depth
  exact ⟨fun e => heval e m (.refl m), fun place s => hexec place s m (Machine.extended_self h)⟩

/-- `for c in "ab" { let seen = c; count = seen.size; }`: the body opens a
scope, defines a variable in it and fails. -/
def failingLoop : Stmt :=
  .each "c" (.literal (.text "ab"))
    [.declare "seen" (some (.name "c")), .assign "count" (.member (.name "seen") "size")]

/-- The theorem at a loop that fails in its body, with a variable in each of
two scopes. -/
theorem scopes_after_failing_loop :
    ([[("x", .int 1)], [("count", .int 0)]] : List Scope) ≠ []
      ∧ Machine.Extended ⟨[[("x", .int 1)], [("count", .int 0)]], 0, 0, 0⟩
        (machineLeft (Run.execute ⟨{}, .none, 0⟩ 100 [] failingLoop
          ⟨[[("x", .int 1)], [("count", .int 0)]], 0, 0, 0⟩)) :=
  ⟨List.cons_ne_nil _ _, (scopes_after _ _ _ (List.cons_ne_nil _ _)).2 [] failingLoop⟩

end Evaluation

end MockupStudio.Script
