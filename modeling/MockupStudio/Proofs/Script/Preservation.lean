/-
What a run keeps true of every value it can get at.

* `Holds`: a property of all values of some scopes;
* `Stable`: a property that every way of making a value out of values keeps,
  given that values that are built have passed the nesting check;
* `Keeps`: a part of a run that keeps a property, whether it succeeds or
  fails, and whose result has a property of its own;
* `keeps_evaluate_execute`: expressions and statements keep every stable
  property, by induction on how deep they may be open inside one another;
* `keeps_script`: a script yields only values that have it.
-/
import MockupStudio.Proofs.Bindings
import MockupStudio.Proofs.Script.Nesting
import MockupStudio.Script.Evaluator

namespace MockupStudio.Script

/-! ### Values of scopes -/

section Scopes

variable {α : Type} {P : α → Prop} {bs more : Bindings α} {key : String} {a : α}

lemma of_get? (h : ∀ b ∈ bs, P b.2) (ha : Bindings.get? key bs = some a) : P a := by
  induction bs with
  | nil => cases ha
  | cons b bs ih =>
    rw [Bindings.get?] at ha
    split at ha
    · cases ha
      exact h b List.mem_cons_self
    · exact ih (fun c hc => h c (List.mem_cons_of_mem _ hc)) ha

lemma all_insert (h : ∀ b ∈ bs, P b.2) (ha : P a) : ∀ b ∈ Bindings.insert key a bs, P b.2 := by
  induction bs with
  | nil => simpa [Bindings.insert] using ha
  | cons b bs ih =>
    rw [List.forall_mem_cons] at h
    rw [Bindings.insert]
    split
    · exact List.forall_mem_cons.mpr ⟨ha, h.2⟩
    · exact List.forall_mem_cons.mpr ⟨h.1, ih h.2⟩

lemma all_insertAll (h : ∀ b ∈ bs, P b.2) (hmore : ∀ b ∈ more, P b.2) :
    ∀ b ∈ Bindings.insertAll bs more, P b.2 := by
  induction more generalizing bs with
  | nil => exact h
  | cons b more ih =>
    rw [List.forall_mem_cons] at hmore
    exact ih (all_insert h hmore.1) hmore.2

lemma all_ofList (h : ∀ b ∈ more, P b.2) : ∀ b ∈ Bindings.ofList more, P b.2 :=
  all_insertAll (fun _ hb => by cases hb) h

end Scopes

/-- A property of all values of some scopes. -/
def Holds (P : Value → Prop) (scopes : List Scope) : Prop :=
  ∀ scope ∈ scopes, ∀ b ∈ scope, P b.2

section Holds

variable {P : Value → Prop} {scopes scopes' : List Scope} {scope : Scope} {name : String}
  {v : Value}

lemma holds_cons : Holds P (scope :: scopes) ↔ (∀ b ∈ scope, P b.2) ∧ Holds P scopes :=
  List.forall_mem_cons

lemma Holds.push (h : Holds P scopes) : Holds P ([] :: scopes) :=
  holds_cons.mpr ⟨fun _ hb => (List.not_mem_nil hb).elim, h⟩

lemma Holds.popped (h : Holds P scopes) : Holds P (popped scopes) := by
  rw [Script.popped.eq_def]
  split
  · exact (holds_cons.mp h).2
  · exact h

lemma Holds.define (h : Holds P scopes) (hv : P v) : Holds P (define name v scopes) := by
  cases scopes with
  | nil => exact h
  | cons scope scopes =>
    rw [holds_cons] at h
    exact holds_cons.mpr ⟨all_insert h.1 hv, h.2⟩

lemma Holds.assign (h : Holds P scopes) (hv : P v) (ha : assign? name v scopes = some scopes') :
    Holds P scopes' := by
  induction scopes generalizing scopes' with
  | nil => cases ha
  | cons scope scopes ih =>
    rw [holds_cons] at h
    rw [assign?, Scope.assign?] at ha
    split at ha
    · next hs =>
      split at hs
      · cases hs
        cases ha
        exact holds_cons.mpr ⟨all_insert h.1 hv, h.2⟩
      · cases hs
    · obtain ⟨outer, houter, rfl⟩ := Option.map_eq_some_iff.mp ha
      exact holds_cons.mpr ⟨h.1, ih h.2 houter⟩

lemma Holds.lookup (h : Holds P scopes) (hv : lookup name scopes = some v) : P v := by
  induction scopes with
  | nil => cases hv
  | cons scope scopes ih =>
    rw [holds_cons] at h
    rw [Script.lookup] at hv
    split at hv
    · next hs =>
      cases hv
      exact of_get? h.1 hs
    · exact ih h.2 hv

lemma Holds.flattened (h : Holds P scopes) : ∀ b ∈ flattened scopes, P b.2 := by
  induction scopes with
  | nil => exact fun _ hb => (List.not_mem_nil hb).elim
  | cons scope scopes ih =>
    rw [holds_cons] at h
    exact all_insertAll (ih h.2) h.1

end Holds

/-! ### Parts of a run -/

/-- A value that has passed the nesting check of a run. -/
def Run.Fits (run : Run) (v : Value) : Prop :=
  v.countUpTo run.limits.maxResolveDepth ≤ run.limits.maxResolveDepth

lemma nesting_le_of_fits {run : Run} {v : Value} (h : run.Fits v) :
    v.nesting ≤ run.limits.maxResolveDepth := by
  rw [Run.Fits, Value.countUpTo_eq] at h
  omega

/-- A property that every way of making a value out of values keeps. -/
structure Stable (run : Run) (P : Value → Prop) : Prop where
  helpers : ∀ b ∈ run.helpers, P b.2
  literal (l : Literal) : P (Run.ofLiteral l)
  binary {op a b v} : P a → P b → Value.binary? op a b = .ok v → P v
  unary {op a v} : P a → Value.unary? op a = .ok v → P v
  index {a key v} : P a → Value.index? a key = .ok v → P v
  member {a key v} : P a → Value.member? a key = .ok v → P v
  iteration {a vs} : P a → Value.iteration? a = .ok vs → ∀ v ∈ vs, P v
  array {vs} : (∀ v ∈ vs, P v) → run.Fits (.array vs) → P (.array vs)
  object {members} : (Bindings.keys members).Nodup → (∀ m ∈ members, P m.2) →
    run.Fits (.object members) → P (.object members)
  closure {name parameters body captured id} : (∀ b ∈ captured, P b.2) →
    run.Fits (.function name parameters body (some captured) id) →
      P (.function name parameters body (some captured) id)
  captured {name parameters body scope id} : P (.function name parameters body (some scope) id) →
    ∀ b ∈ scope, P b.2
  native {f arguments v} : P (.native f) → (∀ a ∈ arguments, P a) →
    f.call arguments run.globals.host = .ok v → run.Fits v → P v

/-- A part of a run ends with the property kept, with a result as it should
be if there is one. -/
inductive Ends (P : Value → Prop) (R : α → Prop) :
    EStateM.Result RuntimeError Machine α → Prop where
  | ok : R a → Holds P m.scopes → Ends P R (.ok a m)
  | error : Holds P m.scopes → Ends P R (.error e m)

/-- A part of a run that keeps a property and gives a result as it should be. -/
def Keeps (P : Value → Prop) (R : α → Prop) (part : Eval α) : Prop :=
  ∀ m, Holds P m.scopes → Ends P R (part m)

/-- How a statement ends, with a value that has a property if it has one. -/
def Flow.Holds (P : Value → Prop) : Flow → Prop
  | .normal v | .returned v => P v
  | .leftLoop | .nextTurn => True

section Parts

variable {run : Run} {P : Value → Prop} {α β : Type} {Q : α → Prop} {R : β → Prop}

lemma Keeps.pure {a : α} (h : Q a) : Keeps P Q (pure a) := fun _ hm => .ok h hm

lemma Keeps.throw (e : RuntimeError) : Keeps P Q (throw e) := fun _ hm => .error hm

lemma Keeps.bind {part : Eval α} {next : α → Eval β} (h : Keeps P Q part)
    (hnext : ∀ a, Q a → Keeps P R (next a)) : Keeps P R (part >>= next) := by
  intro m hm
  have hpart := h m hm
  simp only [Bind.bind, EStateM.bind]
  generalize part m = r at hpart
  cases hpart with
  | ok ha hm => exact hnext _ ha _ hm
  | error hm => exact .error hm

lemma Keeps.mapM {part : β → Eval α} {items : List β} (h : ∀ b ∈ items, Keeps P Q (part b)) :
    Keeps P (fun as => ∀ a ∈ as, Q a) (items.mapM part) := by
  induction items with
  | nil => exact .pure fun _ h => (List.not_mem_nil h).elim
  | cons item items ih =>
    rw [List.forall_mem_cons] at h
    rw [List.mapM_cons]
    exact h.1.bind fun a ha => (ih h.2).bind fun as has => .pure (List.forall_mem_cons.mpr ⟨ha, has⟩)

lemma keeps_lift {r : Except RuntimeError α} (h : ∀ a, r = .ok a → Q a) :
    Keeps P Q (Run.lift r) := by
  intro m hm
  cases r with
  | ok a => exact .ok (h a rfl) hm
  | error => exact .error hm

lemma keeps_tick : Keeps P (fun _ => True) run.tick := by
  intro m hm
  rw [Run.tick]
  split
  · exact .error hm
  · exact .ok trivial hm

lemma keeps_bounded {v : Value} (h : run.Fits v → P v) : Keeps P P (run.bounded v) := by
  intro m hm
  rw [Run.bounded]
  split
  · exact .error hm
  · next hfits => exact .ok (h (Nat.not_lt.mp hfits)) hm

lemma keeps_define {name : String} {v : Value} (hv : P v) :
    Keeps P (fun _ => True) (Run.define name v) :=
  fun _ hm => .ok trivial (hm.define hv)

lemma keeps_assign {name : String} {v : Value} (hv : P v) :
    Keeps P (fun _ => True) (run.assign name v) := by
  intro m hm
  rw [Run.assign, Environment.assign]
  cases h : assign? name v m.scopes with
  | some scopes => exact .ok trivial (hm.assign hv h)
  | none =>
    simp only
    split
    · next hs => split at hs <;> cases hs
    · exact .error hm
    · exact .error hm

lemma keeps_read (hhelpers : ∀ b ∈ run.helpers, P b.2) (name : String) :
    Keeps P P (run.read name) := by
  intro m hm
  rw [Run.read, Environment.get?]
  cases h : lookup name m.scopes with
  | some v => exact .ok (hm.lookup h) hm
  | none =>
    simp only
    split
    · next v hv => exact .ok (of_get? hhelpers hv) hm
    · exact .error hm

lemma Keeps.inScope {part : Eval α} (h : Keeps P Q part) : Keeps P Q (Run.inScope part) := by
  intro m hm
  have hpart := h { m with scopes := [] :: m.scopes } hm.push
  rw [Run.inScope]
  generalize part { m with scopes := [] :: m.scopes } = r at hpart
  cases hpart with
  | ok ha hm => exact .ok ha hm.popped
  | error hm => exact .error hm.popped

lemma Keeps.deeper {part : Eval Value} (h : Keeps P P part) : Keeps P P (run.deeper part) := by
  intro m hm
  rw [Run.deeper]
  split
  · exact .error hm
  · have hpart := h { m with evalDepth := m.evalDepth + 1 } hm
    generalize part { m with evalDepth := m.evalDepth + 1 } = r at hpart
    cases hpart with
    | ok ha hm => exact .ok ha hm
    | error hm => exact .error hm

/-- A call leaves the scopes of the caller alone. -/
lemma Keeps.inCall {part : Eval α} {scopes : List Scope} (h : Keeps P Q part)
    (hscopes : Holds P scopes) : Keeps P Q (Run.inCall scopes part) := by
  intro m hm
  have hpart := h ⟨scopes, m.steps, m.callDepth + 1, 0⟩ hscopes
  rw [Run.inCall]
  generalize part ⟨scopes, m.steps, m.callDepth + 1, 0⟩ = r at hpart
  cases hpart with
  | ok ha _ => exact .ok ha hm
  | error _ => exact .error hm

lemma keeps_closure (hP : Stable run P) (name : String) (parameters : List String)
    (body : List Stmt) (id : FunctionId) : Keeps P P (run.closure name parameters body id) :=
  fun m hm => keeps_bounded (hP.closure hm.flattened) m hm

lemma keeps_sequence {exec : List Nat → Stmt → Eval Flow}
    (hexec : ∀ place s, Keeps P (Flow.Holds P) (exec place s)) (place : List Nat) (i : Nat)
    {last : Value} (hlast : P last) (body : List Stmt) :
    Keeps P (Flow.Holds P) (Run.sequence exec place i last body) := by
  induction body generalizing i last with
  | nil => exact .pure hlast
  | cons s rest ih =>
    intro m hm
    have hs := hexec (i :: place) s m hm
    simp only [Run.sequence]
    generalize exec (i :: place) s m = r at hs
    cases hs with
    | @ok flow m hflow hm =>
      cases flow with
      | normal v => exact ih _ hflow _ hm
      | _ => exact .ok hflow hm
    | error hm => exact .error hm

lemma keeps_whileLoop (hnull : P .null) {condition : Eval Value} {body : Eval Flow}
    (hcondition : Keeps P P condition) (hbody : Keeps P (Flow.Holds P) body) (turns : Nat) :
    Keeps P (Flow.Holds P) (run.whileLoop condition body turns) := by
  induction turns with
  | zero => exact fun m hm => .error hm
  | succ turns ih =>
    intro m hm
    have hc := hcondition m hm
    simp only [Run.whileLoop]
    generalize condition m = r at hc
    cases hc with
    | error hm => exact .error hm
    | @ok v m hv hm =>
      simp only
      split
      · have hb := hbody m hm
        generalize body m = r at hb
        cases hb with
        | error hm => exact .error hm
        | @ok flow m hflow hm =>
          cases flow with
          | leftLoop => exact .ok hnull hm
          | returned v => exact .ok hflow hm
          | _ => exact ih _ hm
      · exact .ok hnull hm

lemma keeps_eachLoop (hnull : P .null) (item : String) {body : Eval Flow}
    (hbody : Keeps P (Flow.Holds P) body) {vs : List Value} (hvs : ∀ v ∈ vs, P v) :
    Keeps P (Flow.Holds P) (Run.eachLoop item body vs) := by
  induction vs with
  | nil => exact .pure hnull
  | cons v vs ih =>
    rw [List.forall_mem_cons] at hvs
    intro m hm
    have hb := hbody { m with scopes := define item v m.scopes } (hm.define hvs.1)
    simp only [Run.eachLoop]
    generalize body { m with scopes := define item v m.scopes } = r at hb
    cases hb with
    | error hm => exact .error hm
    | @ok flow m hflow hm =>
      cases flow with
      | leftLoop => exact .ok hnull hm
      | returned v => exact .ok hflow hm
      | _ => exact ih hvs.2 _ hm

/-! ### Calls -/

lemma holds_callScopes {name : String} {parameters : List String} {body : List Stmt}
    {captured : Option Scope} {id : FunctionId} {arguments : List Value}
    (hcaptured : ∀ scope, P (.function name parameters body (some scope) id) →
      ∀ b ∈ scope, P b.2)
    (hf : P (.function name parameters body captured id)) (ha : ∀ a ∈ arguments, P a) :
    Holds P (Run.callScopes (.function name parameters body captured id) name parameters captured
      arguments) := by
  have houter : ∀ b ∈ captured.getD [], P b.2 := by
    cases captured with
    | none => exact fun _ hb => (List.not_mem_nil hb).elim
    | some scope => exact hcaptured scope hf
  have harguments : ∀ b ∈ Bindings.ofList (parameters.zip arguments), P b.2 :=
    all_ofList fun b hb => ha _ (List.of_mem_zip hb).2
  refine holds_cons.mpr ⟨harguments, holds_cons.mpr ⟨?_, fun _ h => (List.not_mem_nil h).elim⟩⟩
  split
  · exact houter
  · exact all_insert houter hf

lemma keeps_callResult (hnull : P .null) {flow : Flow} (h : flow.Holds P) :
    Keeps P P (Run.callResult flow) := by
  cases flow with
  | returned v => exact .pure h
  | normal v => exact .pure hnull
  | leftLoop => exact .throw _
  | nextTurn => exact .throw _

/-- What calling a function of a script comes to. -/
lemma Run.apply_function (exec : List Nat → Stmt → Eval Flow) (name : String)
    (parameters : List String) (body : List Stmt) (captured : Option Scope) (id : FunctionId)
    (arguments : List Value) (m : Machine) :
    run.apply exec (.function name parameters body captured id) arguments m =
      if arguments.length ≠ parameters.length then
        .error (.arity name parameters.length arguments.length) m
      else if run.limits.maxCallDepth ≤ m.callDepth then
        .error (.callDepth run.limits.maxCallDepth) m
      else
        match inCall (callScopes (.function name parameters body captured id) name parameters
          captured arguments) (sequence exec (bodyPlace id) 0 .null body) m with
        | .ok flow m => callResult flow m
        | .error e m => .error e m := rfl

lemma keeps_callNative {f : Native} {arguments : List Value}
    (hnative : ∀ v, f.call arguments run.globals.host = .ok v → run.Fits v → P v) :
    Keeps P P (run.callNative f arguments) := by
  rw [Run.callNative]
  split
  · next v h => exact keeps_bounded (hnative v h)
  · exact .throw _

lemma keeps_apply (hP : Stable run P) {exec : List Nat → Stmt → Eval Flow}
    (hexec : ∀ place s, Keeps P (Flow.Holds P) (exec place s)) {f : Value} (hf : P f)
    {arguments : List Value} (ha : ∀ a ∈ arguments, P a) :
    Keeps P P (run.apply exec f arguments) := by
  have hnull : P .null := hP.literal .null
  cases f with
  | function name parameters body captured id =>
    have hbody := (keeps_sequence hexec (Run.bodyPlace id) 0 hnull body).inCall
      (holds_callScopes (fun _ => hP.captured) hf ha)
    intro m hm
    rw [Run.apply_function]
    split
    · exact .error hm
    · split
      · exact .error hm
      · have hbody := hbody m hm
        generalize Run.inCall _ _ m = r at hbody
        cases hbody with
        | ok hflow hm => exact keeps_callResult hnull hflow _ hm
        | error hm => exact .error hm
  | native f => exact keeps_callNative fun _ => hP.native hf ha
  | _ => exact Keeps.throw _

end Parts

/-! ### Expressions and statements -/

section Evaluation

variable {run : Run} {P : Value → Prop}

/-- One step of evaluation, given that parts are evaluated and run as they
should be. -/
lemma keeps_evaluate_succ (hP : Stable run P) {depth : Nat}
    (heval : ∀ e, Keeps P P (run.evaluate depth e))
    (hexec : ∀ place s, Keeps P (Flow.Holds P) (run.execute depth place s)) (e : Expr) :
    Keeps P P (run.evaluate (depth + 1) e) := by
  rw [Run.evaluate.eq_def]
  refine Keeps.deeper (keeps_tick.bind fun _ _ => ?_)
  cases e with
  | literal l => exact .pure (hP.literal l)
  | name x => exact keeps_read hP.helpers x
  | binary op left right =>
    refine (heval left).bind fun a ha => ?_
    split
    · exact .pure ha
    · refine (heval right).bind fun b hb => ?_
      split
      · exact .pure hb
      · exact keeps_lift fun _ => hP.binary ha hb
  | unary op operand =>
    exact (heval operand).bind fun a ha => keeps_lift fun _ => hP.unary ha
  | call callee arguments =>
    exact (heval callee).bind fun f hf =>
      (Keeps.mapM fun e _ => heval e).bind fun vs hvs => keeps_apply hP hexec hf hvs
  | index object key =>
    exact (heval object).bind fun a ha => (heval key).bind fun _ _ =>
      keeps_lift fun _ => hP.index ha
  | member object key =>
    exact (heval object).bind fun a ha => keeps_lift fun _ => hP.member ha
  | array items =>
    exact (Keeps.mapM fun e _ => heval e).bind fun vs hvs => keeps_bounded (hP.array hvs)
  | object members =>
    have hmembers : ∀ m ∈ members, Keeps P (fun b : String × Value => P b.2)
        (do let v ← run.evaluate depth m.2; pure (m.1, v)) :=
      fun m _ => (heval m.2).bind fun v hv => .pure hv
    exact (Keeps.mapM hmembers).bind fun ms hms =>
      keeps_bounded (hP.object (Bindings.nodup_keys_ofList ms) (all_ofList hms))
  | lambda parameters body => exact fun m hm => keeps_closure hP _ _ _ _ m hm

lemma keeps_execute_succ (hP : Stable run P) {depth : Nat}
    (heval : ∀ e, Keeps P P (run.evaluate depth e))
    (hexec : ∀ place s, Keeps P (Flow.Holds P) (run.execute depth place s)) (place : List Nat)
    (s : Stmt) : Keeps P (Flow.Holds P) (run.execute (depth + 1) place s) := by
  have hnull : P .null := hP.literal .null
  rw [Run.execute.eq_def]
  refine keeps_tick.bind fun _ _ => ?_
  cases s with
  | expr e => exact (heval e).bind fun v hv => .pure hv
  | declare x value =>
    exact (heval _).bind fun v hv => (keeps_define hv).bind fun _ _ => .pure hnull
  | assign x value =>
    exact (heval value).bind fun v hv => (keeps_assign hv).bind fun _ _ => .pure hnull
  | block body => exact (keeps_sequence hexec place 0 hnull body).inScope
  | branch condition body otherwise =>
    refine (heval condition).bind fun c _ => ?_
    split
    · exact hexec _ _
    · cases otherwise with
      | nothing => exact .pure hnull
      | block => exact hexec _ _
      | branch => exact hexec _ _
  | loop condition body => exact keeps_whileLoop hnull (heval condition) (hexec _ _) _
  | each item source body =>
    exact (heval source).bind fun a ha =>
      (keeps_lift fun _ => hP.iteration ha).bind fun vs hvs =>
        (keeps_eachLoop hnull item (hexec _ _) hvs).inScope
  | function name parameters body =>
    exact (keeps_closure hP _ _ _ _).bind fun f hf => (keeps_define hf).bind fun _ _ => .pure hnull
  | result value =>
    cases value with
    | none => exact .pure hnull
    | some e => exact (heval e).bind fun v hv => .pure hv
  | leaveLoop => exact .pure trivial
  | nextTurn => exact .pure trivial

/-- Expressions and statements keep every stable property. -/
theorem keeps_evaluate_execute (hP : Stable run P) (depth : Nat) :
    (∀ e, Keeps P P (run.evaluate depth e))
      ∧ ∀ place s, Keeps P (Flow.Holds P) (run.execute depth place s) := by
  induction depth with
  | zero => exact ⟨fun _ => .throw _, fun _ _ => .throw _⟩
  | succ depth ih => exact ⟨keeps_evaluate_succ hP ih.1 ih.2, keeps_execute_succ hP ih.1 ih.2⟩

/-- What a script yields has every stable property, and so has every variable
it leaves. -/
theorem keeps_script (hP : Stable run P) (code : Code) : Keeps P P (run.script code) := by
  have hnull : P .null := hP.literal .null
  have hsequence := keeps_sequence (keeps_evaluate_execute hP run.depthLimit).2 [] 0 hnull code
  intro m hm
  have hm := hsequence m hm
  rw [Run.script]
  generalize Run.sequence _ _ _ _ _ m = r at hm
  cases hm with
  | error hm => exact .error hm
  | @ok flow m hflow hm =>
    cases flow with
    | normal v => exact .ok hnull hm
    | returned v => exact .ok hflow hm
    | leftLoop => exact .error hm
    | nextTurn => exact .error hm

end Evaluation

end MockupStudio.Script
