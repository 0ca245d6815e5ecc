/-
Runs that differ in the order of their maps.

* `Moment.Alike`: moments that are the same but for the order of objects,
  captured variables and scopes, also in what open expressions and loops have
  put aside;
* `step_alike`: so are the moments after them;
* `Run.Stirred`: a run in which every map may take another order before every
  step;
* `Run.Stirred.alike_after`: it is alike to the run that leaves them as they
  are, step by step.
-/
import MockupStudio.Proofs.Script.Agreement
import MockupStudio.Proofs.Script.AlikeOperations

namespace MockupStudio.Script

open Value (AllAlike)

/-! ### Moments -/

/-- Machines that are the same but for the order of variables. -/
structure Machine.Alike (m m' : Machine) : Prop where
  scopes : ScopesAlike m.scopes m'.scopes
  steps : m.steps = m'.steps
  callDepth : m.callDepth = m'.callDepth
  evalDepth : m.evalDepth = m'.evalDepth

/-- Runs that are the same but for the order of the helpers. Functions that are no
helpers do not look at the order of maps. -/
structure Run.Alike (run run' : Run) : Prop where
  limits : run.limits = run'.limits
  helpers : Scope.Alike run.helpers run'.helpers
  serial : run.serial = run'.serial
  host {number vs ws} : AllAlike vs ws →
    Agree Value.Alike (run.globals.host number vs) (run'.globals.host number ws)

inductive Flow.Alike : Flow → Flow → Prop where
  | normal : v.Alike w → Alike (.normal v) (.normal w)
  | returned : v.Alike w → Alike (.returned v) (.returned w)
  | leftLoop : Alike .leftLoop .leftLoop
  | nextTurn : Alike .nextTurn .nextTurn

inductive Task.Alike : Task → Task → Prop where
  | evaluate (e : Expr) : Alike (.evaluate e) (.evaluate e)
  | enter (e : Expr) : Alike (.enter e) (.enter e)
  | execute (place : List Nat) (s : Stmt) : Alike (.execute place s) (.execute place s)
  | give : v.Alike w → Alike (.give v) (.give w)
  | finish : Flow.Alike flow flow' → Alike (.finish flow) (.finish flow')
  | fail (e : RuntimeError) : Alike (.fail e) (.fail e)

/-- Whether a frame has put no values aside. -/
def Frame.isPlain : Frame → Bool
  | .right .. | .key _ | .argument .. | .item .. | .property .. | .caller .. | .each .. => false
  | _ => true

/-- Frames that have put values aside that are alike. -/
inductive Frame.Alike : Frame → Frame → Prop where
  | plain : frame.isPlain → Alike frame frame
  | right (op : BinaryOp) : v.Alike w → Alike (.right op v) (.right op w)
  | key : v.Alike w → Alike (.key v) (.key w)
  | argument (rest : List Expr) : f.Alike g → AllAlike vs ws →
      Alike (.argument f vs rest) (.argument g ws rest)
  | item (rest : List Expr) : AllAlike vs ws → Alike (.item vs rest) (.item ws rest)
  | property (key : String) (rest : List (String × Expr)) :
      List.Forall₂ (Bindings.PairRelated Value.Alike) ms ns →
      Alike (.property ms key rest) (.property ns key rest)
  | caller (evalDepth : Nat) : ScopesAlike scopes scopes' →
      Alike (.caller scopes evalDepth) (.caller scopes' evalDepth)
  | each (place : List Nat) (item : String) (body : List Stmt) : AllAlike vs ws →
      Alike (.each place item body vs) (.each place item body ws)

/-- Frames that are alike one by one. -/
abbrev FramesAlike : List Frame → List Frame → Prop := List.Forall₂ Frame.Alike

/-- Moments that are the same but for the order of maps. -/
structure Moment.Alike (c d : Moment) : Prop where
  task : c.task.Alike d.task
  machine : c.machine.Alike d.machine
  pending : FramesAlike c.pending d.pending

/-- Two outcomes of a part of a run: related results, or the same error, on
machines that are alike. -/
inductive EndsAlike (R : α → α → Prop) : EStateM.Result RuntimeError Machine α →
    EStateM.Result RuntimeError Machine α → Prop where
  | ok : R a b → Machine.Alike m m' → EndsAlike R (.ok a m) (.ok b m')
  | error : Machine.Alike m m' → EndsAlike R (.error e m) (.error e m')

section Moments

variable {m m' m'' : Machine} {run run' run'' : Run} {k k' : List Frame}

lemma Machine.Alike.symm (h : m.Alike m') : m'.Alike m :=
  ⟨ScopesAlike.symm h.scopes, h.steps.symm, h.callDepth.symm, h.evalDepth.symm⟩

lemma Machine.Alike.trans (h : m.Alike m') (h' : m'.Alike m'') : m.Alike m'' :=
  ⟨ScopesAlike.trans h.scopes h'.scopes, h.steps.trans h'.steps, h.callDepth.trans h'.callDepth,
    h.evalDepth.trans h'.evalDepth⟩

lemma Agree.symm {r r' : Except String Value} (h : Agree Value.Alike r r') :
    Agree Value.Alike r' r := by
  cases h with
  | ok h => exact .ok h.symm
  | error e => exact .error e

lemma Run.Alike.symm (h : run.Alike run') : run'.Alike run :=
  ⟨h.limits.symm, Scope.Alike.symm h.helpers, h.serial.symm,
    fun hvs => (h.host (AllAlike.symm hvs)).symm⟩

lemma Flow.Alike.symm {flow flow' : Flow} (h : flow.Alike flow') : flow'.Alike flow := by
  cases h with
  | normal h => exact .normal h.symm
  | returned h => exact .returned h.symm
  | leftLoop => exact .leftLoop
  | nextTurn => exact .nextTurn

lemma Flow.Alike.trans {flow flow' flow'' : Flow} (h : flow.Alike flow')
    (h' : flow'.Alike flow'') : flow.Alike flow'' := by
  cases h with
  | normal h => cases h' with | normal h' => exact .normal (h.trans h')
  | returned h => cases h' with | returned h' => exact .returned (h.trans h')
  | leftLoop | nextTurn => exact h'

lemma Task.Alike.symm {task task' : Task} (h : task.Alike task') : task'.Alike task := by
  cases h with
  | give h => exact .give h.symm
  | finish h => exact .finish h.symm
  | evaluate e => exact .evaluate e
  | enter e => exact .enter e
  | execute place s => exact .execute place s
  | fail e => exact .fail e

lemma Task.Alike.trans {task task' task'' : Task} (h : task.Alike task')
    (h' : task'.Alike task'') : task.Alike task'' := by
  cases h with
  | give h => cases h' with | give h' => exact .give (h.trans h')
  | finish h => cases h' with | finish h' => exact .finish (h.trans h')
  | evaluate | enter | execute | fail => exact h'

lemma Frame.Alike.symm {frame frame' : Frame} (h : frame.Alike frame') : frame'.Alike frame := by
  cases h with
  | plain h => exact .plain h
  | right op h => exact .right op h.symm
  | key h => exact .key h.symm
  | argument rest hf h => exact .argument rest hf.symm (AllAlike.symm h)
  | item rest h => exact .item rest (AllAlike.symm h)
  | property key rest h =>
    exact .property key rest
      (forall₂_symm (Bindings.pairRelated_symm fun _ _ => Value.Alike.symm) h)
  | caller evalDepth h => exact .caller evalDepth (ScopesAlike.symm h)
  | each place item body h => exact .each place item body (AllAlike.symm h)

lemma Frame.Alike.trans {frame frame' frame'' : Frame} (h : frame.Alike frame')
    (h' : frame'.Alike frame'') : frame.Alike frame'' := by
  cases h with
  | plain => exact h'
  | right op h =>
    cases h' with
    | plain h' => cases h'
    | right _ h' => exact .right op (h.trans h')
  | key h =>
    cases h' with
    | plain h' => cases h'
    | key h' => exact .key (h.trans h')
  | argument rest hf h =>
    cases h' with
    | plain h' => cases h'
    | argument _ hf' h' => exact .argument rest (hf.trans hf') (AllAlike.trans h h')
  | item rest h =>
    cases h' with
    | plain h' => cases h'
    | item _ h' => exact .item rest (AllAlike.trans h h')
  | property key rest h =>
    cases h' with
    | plain h' => cases h'
    | property _ _ h' =>
      exact .property key rest
        (forall₂_trans (Bindings.pairRelated_trans fun _ _ _ => Value.Alike.trans) h h')
  | caller evalDepth h =>
    cases h' with
    | plain h' => cases h'
    | caller _ h' => exact .caller evalDepth (ScopesAlike.trans h h')
  | each place item body h =>
    cases h' with
    | plain h' => cases h'
    | each _ _ _ h' => exact .each place item body (AllAlike.trans h h')

lemma Moment.Alike.symm {c d : Moment} (h : c.Alike d) : d.Alike c :=
  ⟨h.task.symm, h.machine.symm, forall₂_symm (fun _ _ => Frame.Alike.symm) h.pending⟩

lemma Moment.Alike.trans {c d e : Moment} (h : c.Alike d) (h' : d.Alike e) : c.Alike e :=
  ⟨h.task.trans h'.task, h.machine.trans h'.machine,
    forall₂_trans (fun _ _ _ => Frame.Alike.trans) h.pending h'.pending⟩

/-- Two outcomes that are alike to one. -/
lemma EndsAlike.trans_symm {r r' r'' : EStateM.Result RuntimeError Machine Value}
    (h : EndsAlike Value.Alike r r'') (h' : EndsAlike Value.Alike r' r'') :
    EndsAlike Value.Alike r r' := by
  cases h with
  | ok hv hm => cases h' with | ok hv' hm' => exact .ok (hv.trans hv'.symm) (hm.trans hm'.symm)
  | error hm => cases h' with | error hm' => exact .error (hm.trans hm'.symm)

/-! ### Parts of a run -/

lemma Machine.Alike.with_scopes (h : m.Alike m') {scopes scopes' : List Scope}
    (hscopes : ScopesAlike scopes scopes') :
    Machine.Alike { m with scopes } { m' with scopes := scopes' } :=
  ⟨hscopes, h.steps, h.callDepth, h.evalDepth⟩

lemma lift_alike {R : α → α → Prop} {r r' : Except RuntimeError α} (h : Agree R r r')
    (hm : m.Alike m') : EndsAlike R (Run.lift r m) (Run.lift r' m') := by
  cases h with
  | ok hab => exact .ok hab hm
  | error e => exact .error hm

lemma tick_alike (hrun : run.Alike run') (hm : m.Alike m') :
    EndsAlike (fun _ _ => True) (run.tick m) (run'.tick m') := by
  have hcounted : Machine.Alike { m with steps := m.steps + 1 } { m' with steps := m'.steps + 1 } :=
    ⟨hm.scopes, congrArg (· + 1) hm.steps, hm.callDepth, hm.evalDepth⟩
  rw [Run.tick, Run.tick, hrun.limits, hm.steps]
  dsimp only
  split
  · exact .error (hm.steps ▸ hcounted)
  · exact .ok trivial (hm.steps ▸ hcounted)

variable {v w : Value}

lemma bounded_alike (hrun : run.Alike run') (hv : v.Alike w) (hm : m.Alike m') :
    EndsAlike Value.Alike (run.bounded v m) (run'.bounded w m') := by
  rw [Run.bounded, Run.bounded, hrun.limits, hv.countUpTo_eq]
  split
  · exact .error hm
  · exact .ok hv hm

lemma read_alike (hrun : run.Alike run') (name : String) (hm : m.Alike m') :
    EndsAlike Value.Alike (run.read name m) (run'.read name m') := by
  rw [Run.read, Run.read]
  rcases Bindings.rel_cases (alike_get? hm.scopes hrun.helpers name) with
    ⟨hb, hc⟩ | ⟨a, b, hb, hc, hab⟩
  · rw [hb, hc]
    exact .error hm
  · rw [hb, hc]
    exact .ok hab hm

lemma assign_alike (hrun : run.Alike run') (name : String) (hv : v.Alike w) (hm : m.Alike m') :
    EndsAlike (fun _ _ => True) (run.assign name v m) (run'.assign name w m') := by
  rw [Run.assign, Run.assign, Environment.assign, Environment.assign]
  rcases Bindings.rel_cases (alike_assign hm.scopes name hv) with ⟨hb, hc⟩ | ⟨a, b, hb, hc, hab⟩
  · rw [hb, hc, hrun.helpers.contains_eq]
    cases Bindings.contains name run'.helpers <;> exact .error hm
  · rw [hb, hc]
    exact .ok trivial (hm.with_scopes hab)

lemma closure_alike (hrun : run.Alike run') (name : String) (parameters : List String)
    (body : List Stmt) (id : FunctionId) (hm : m.Alike m') : EndsAlike Value.Alike
      (run.closure name parameters body id m) (run'.closure name parameters body id m') :=
  bounded_alike hrun (Value.alike_closure _ _ _ _ (alike_flattened hm.scopes)) hm

lemma callNative_alike (hrun : run.Alike run') (f : Native) {xs ys : List Value}
    (h : AllAlike xs ys) (hm : m.Alike m') :
    EndsAlike Value.Alike (run.callNative f xs m) (run'.callNative f ys m') := by
  have hhost (number : Nat) : Agree Value.Alike (run.globals.host number xs)
      (run'.globals.host number ys) := hrun.host h
  have hcall := native_alike f h hhost
  rw [Run.callNative, Run.callNative]
  generalize f.call xs run.globals.host = r at hcall
  generalize f.call ys run'.globals.host = r' at hcall
  cases hcall with
  | ok hab => exact bounded_alike hrun hab hm
  | error e => exact .error hm

lemma callResult_alike {flow flow' : Flow} (h : flow.Alike flow') (hm : m.Alike m') :
    EndsAlike Value.Alike (Run.callResult flow m) (Run.callResult flow' m') := by
  cases h with
  | normal => exact .ok Value.alike_null hm
  | returned h => exact .ok h hm
  | leftLoop | nextTurn => exact .error hm

end Moments

/-! ### Steps -/

section Steps

variable {run run' : Run} {m m' : Machine} {k k' : List Frame} {v w : Value} {xs ys : List Value}

lemma settled_alike {R : α → α → Prop} {done : α → Task}
    {r r' : EStateM.Result RuntimeError Machine α} (h : EndsAlike R r r')
    (hdone : ∀ a b, R a b → (done a).Alike (done b)) (hk : FramesAlike k k') :
    (Moment.settled done k r).Alike (.settled done k' r') := by
  cases h with
  | ok hab hm => exact ⟨hdone _ _ hab, hm, hk⟩
  | error hm => exact ⟨.fail _, hm, hk⟩

lemma given_alike {r r' : EStateM.Result RuntimeError Machine Value}
    (h : EndsAlike Value.Alike r r') (hk : FramesAlike k k') :
    (Moment.settled .give k r).Alike (.settled .give k' r') :=
  settled_alike h (fun _ _ => .give) hk

/-- A statement has ended without a value. -/
lemma nothing_alike (hm : m.Alike m') (hk : FramesAlike k k') :
    Moment.Alike ⟨.finish (.normal .null), m, k⟩ ⟨.finish (.normal .null), m', k'⟩ :=
  ⟨.finish (.normal Value.alike_null), hm, hk⟩

lemma call_alike (hrun : run.Alike run') (hv : v.Alike w) (h : AllAlike xs ys) (hm : m.Alike m')
    (hk : FramesAlike k k') : (run.call v xs m k).Alike (run'.call w ys m' k') := by
  have hbody (name : String) (parameters : List String) (body : List Stmt)
      {captured captured' : Option Scope} (id : FunctionId)
      (hv : Value.Alike (.function name parameters body captured id)
        (.function name parameters body captured' id))
      (hcaptured : Scope.Alike (captured.getD []) (captured'.getD [])) :
      (run.call (.function name parameters body captured id) xs m k).Alike
        (run'.call (.function name parameters body captured' id) ys m' k') := by
    rw [Run.call, Run.call, h.length_eq, hrun.limits, hm.callDepth]
    split
    · exact ⟨.fail _, hm, hk⟩
    · split
      · exact ⟨.fail _, hm, hk⟩
      · have hscopes := alike_callScopes hv hcaptured h name parameters
        have hframes : FramesAlike
            (.sequel (Run.bodyPlace id) 0 body :: .caller m.scopes m.evalDepth :: k)
            (.sequel (Run.bodyPlace id) 0 body :: .caller m'.scopes m'.evalDepth :: k') :=
          .cons (.plain rfl) (.cons (hm.evalDepth ▸ .caller _ hm.scopes) hk)
        exact nothing_alike ⟨hscopes, hm.steps, rfl, rfl⟩ hframes
  cases hv with
  | function => exact hbody _ _ _ _ .function Bindings.related_nil
  | closure hkeys h =>
    exact hbody _ _ _ _ (.closure hkeys h) (Value.related_of_get? hkeys h)
  | native => exact given_alike (callNative_alike hrun _ h hm) hk
  | @scalar v hscalar =>
    cases v with
    | null | bool | int | float | text => exact ⟨.fail _, hm, hk⟩
    | _ => cases hscalar
  | _ => exact ⟨.fail _, hm, hk⟩

lemma argumentsLeft_alike (hrun : run.Alike run') (hv : v.Alike w) (h : AllAlike xs ys)
    (rest : List Expr) (hm : m.Alike m') (hk : FramesAlike k k') :
    (run.argumentsLeft v xs rest m k).Alike (run'.argumentsLeft w ys rest m' k') := by
  cases rest with
  | nil => exact call_alike hrun hv h hm hk
  | cons e rest => exact ⟨.evaluate e, hm, .cons (.argument rest hv h) hk⟩

lemma itemsLeft_alike (hrun : run.Alike run') (h : AllAlike xs ys) (rest : List Expr)
    (hm : m.Alike m') (hk : FramesAlike k k') :
    (run.itemsLeft xs rest m k).Alike (run'.itemsLeft ys rest m' k') := by
  cases rest with
  | nil => exact given_alike (bounded_alike hrun (Value.alike_array h) hm) hk
  | cons e rest => exact ⟨.evaluate e, hm, .cons (.item rest h) hk⟩

lemma membersLeft_alike (hrun : run.Alike run') {ms ns : List (String × Value)}
    (h : List.Forall₂ (Bindings.PairRelated Value.Alike) ms ns) (rest : List (String × Expr))
    (hm : m.Alike m') (hk : FramesAlike k k') :
    (run.membersLeft ms rest m k).Alike (run'.membersLeft ns rest m' k') := by
  cases rest with
  | nil =>
    exact given_alike (bounded_alike hrun (Value.alike_object (Bindings.related_ofList h)) hm) hk
  | cons member rest => exact ⟨.evaluate member.2, hm, .cons (.property member.1 rest h) hk⟩

lemma ofLiteral_alike (l : Literal) : (Run.ofLiteral l).Alike (Run.ofLiteral l) := by
  cases l <;> exact .scalar rfl

lemma enter_alike (hrun : run.Alike run') (e : Expr) (hm : m.Alike m') (hk : FramesAlike k k') :
    (run.enter e m k).Alike (run'.enter e m' k') := by
  cases e with
  | literal l => exact ⟨.give (ofLiteral_alike l), hm, hk⟩
  | name x => exact given_alike (read_alike hrun x hm) hk
  | array items => exact itemsLeft_alike hrun .nil items hm hk
  | object members => exact membersLeft_alike hrun .nil members hm hk
  | lambda parameters body =>
    rw [Run.enter, Run.enter, Run.lambda, Run.lambda, hrun.serial, hm.steps]
    exact given_alike (closure_alike hrun _ _ _ _ hm) hk
  | _ => exact ⟨.evaluate _, hm, .cons (.plain rfl) hk⟩

lemma begin_alike (hrun : run.Alike run') (place : List Nat) (s : Stmt) (hm : m.Alike m')
    (hk : FramesAlike k k') : (run.begin place s m k).Alike (run'.begin place s m' k') := by
  cases s with
  | block body =>
    exact nothing_alike (hm.with_scopes (.cons Bindings.related_nil hm.scopes))
      (.cons (.plain rfl) (.cons (.plain rfl) hk))
  | function name parameters body =>
    have hclosure := closure_alike hrun name parameters body (.declared run.serial place) hm
    rw [Run.begin, Run.begin, ← hrun.serial]
    generalize run.closure name parameters body (.declared run.serial place) m = r at hclosure
    generalize run'.closure name parameters body (.declared run.serial place) m' = r' at hclosure
    cases hclosure with
    | ok hf hm => exact nothing_alike (hm.with_scopes (alike_define hm.scopes name hf)) hk
    | error hm => exact ⟨.fail _, hm, hk⟩
  | result value =>
    cases value with
    | none => exact ⟨.finish (.returned Value.alike_null), hm, hk⟩
    | some e => exact ⟨.evaluate e, hm, .cons (.plain rfl) hk⟩
  | leaveLoop => exact ⟨.finish .leftLoop, hm, hk⟩
  | nextTurn => exact ⟨.finish .nextTurn, hm, hk⟩
  | _ => exact ⟨.evaluate _, hm, .cons (.plain rfl) hk⟩

lemma otherwise_alike (place : List Nat) (o : Otherwise) (hm : m.Alike m')
    (hk : FramesAlike k k') : (Run.otherwise place m k o).Alike (Run.otherwise place m' k' o) := by
  cases o with
  | nothing => exact nothing_alike hm hk
  | block | branch => exact ⟨.execute _ _, hm, hk⟩

lemma alike_concat (h : AllAlike xs ys) (hv : v.Alike w) : AllAlike (xs ++ [v]) (ys ++ [w]) :=
  List.rel_append h (.cons hv .nil)

/-- A value goes to a frame that has put no values aside. -/
lemma take_alike_plain (hrun : run.Alike run') (hv : v.Alike w) (hm : m.Alike m') {frame : Frame}
    (hframe : frame.isPlain) (hk : FramesAlike k k') :
    Option.Rel Moment.Alike (run.take? v m k frame) (run'.take? w m' k' frame) := by
  cases frame with
  | right | key | argument | item | property | caller | each => cases hframe
  | expression =>
    have hclosed : (Frame.expression.close m).Alike (Frame.expression.close m') :=
      ⟨hm.scopes, hm.steps, hm.callDepth, congrArg (· - 1) hm.evalDepth⟩
    exact .some ⟨.give hv, hclosed, hk⟩
  | left op right =>
    rw [Run.take?, Run.take?, Value.decidedBy_eq op hv]
    split
    · exact .some ⟨.give hv, hm, hk⟩
    · exact .some ⟨.evaluate right, hm, .cons (.right op hv) hk⟩
  | operand op => exact .some (given_alike (lift_alike (Value.unary_alike op hv) hm) hk)
  | callee arguments => exact .some (argumentsLeft_alike hrun hv .nil arguments hm hk)
  | indexed key => exact .some ⟨.evaluate key, hm, .cons (.key hv) hk⟩
  | member key => exact .some (given_alike (lift_alike (Value.member_alike hv key) hm) hk)
  | value => exact .some ⟨.finish (.normal hv), hm, hk⟩
  | declare x => exact .some (nothing_alike (hm.with_scopes (alike_define hm.scopes x hv)) hk)
  | assign x =>
    exact .some (settled_alike (assign_alike hrun x hv hm)
      (fun _ _ _ => .finish (.normal Value.alike_null)) hk)
  | branch place body o =>
    rw [Run.take?, Run.take?, hv.truthy_eq]
    split
    · exact .some ⟨.execute _ _, hm, hk⟩
    · exact .some (otherwise_alike place o hm hk)
  | condition place c body =>
    rw [Run.take?, Run.take?, hv.truthy_eq]
    split
    · exact .some ⟨.execute _ _, hm, .cons (.plain rfl) hk⟩
    · exact .some (nothing_alike hm hk)
  | source place item body =>
    have hitems := Value.iteration_alike hv
    rw [Run.take?, Run.take?]
    generalize Value.iteration? v = r at hitems
    generalize Value.iteration? w = r' at hitems
    cases hitems with
    | ok h =>
      exact .some (nothing_alike (hm.with_scopes (.cons Bindings.related_nil hm.scopes))
        (.cons (.each place item body h) (.cons (.plain rfl) hk)))
    | error e => exact .some ⟨.fail e, hm, hk⟩
  | result => exact .some ⟨.finish (.returned hv), hm, hk⟩
  | turn | scope | sequel | script => exact .none

/-- A value goes to a frame. -/
lemma take_alike (hrun : run.Alike run') (hv : v.Alike w) (hm : m.Alike m') {frame frame' : Frame}
    (hframe : frame.Alike frame') (hk : FramesAlike k k') :
    Option.Rel Moment.Alike (run.take? v m k frame) (run'.take? w m' k' frame') := by
  cases hframe with
  | plain hplain => exact take_alike_plain hrun hv hm hplain hk
  | right op h =>
    rw [Run.take?, Run.take?]
    split
    · exact .some ⟨.give hv, hm, hk⟩
    · exact .some (given_alike (lift_alike (Value.binary_alike op h hv) hm) hk)
  | key h => exact .some (given_alike (lift_alike (Value.index_alike h hv) hm) hk)
  | argument rest hf h =>
    exact .some (argumentsLeft_alike hrun hf (alike_concat h hv) rest hm hk)
  | item rest h => exact .some (itemsLeft_alike hrun (alike_concat h hv) rest hm hk)
  | @property ms ns key rest h =>
    have hmembers : List.Forall₂ (Bindings.PairRelated Value.Alike) (ms ++ [(key, v)])
        (ns ++ [(key, w)]) := List.rel_append h (.cons ⟨rfl, hv⟩ .nil)
    exact .some (membersLeft_alike hrun hmembers rest hm hk)
  | caller | each => exact .none

/-- The end of a statement goes to a frame. -/
lemma resume_alike {flow flow' : Flow} (hflow : flow.Alike flow') (hm : m.Alike m')
    {frame frame' : Frame} (hframe : frame.Alike frame') (hk : FramesAlike k k') :
    Option.Rel Moment.Alike (Run.resume? flow m k frame) (Run.resume? flow' m' k' frame') := by
  cases hframe with
  | right | key | argument | item | property => exact .none
  | caller evalDepth h =>
    have hclosed : Machine.Alike ((Frame.caller _ evalDepth).close m)
        ((Frame.caller _ evalDepth).close m') :=
      ⟨h, hm.steps, congrArg (· - 1) hm.callDepth, rfl⟩
    exact .some (given_alike (callResult_alike hflow hclosed) hk)
  | each place item body h =>
    cases hflow with
    | leftLoop => exact .some (nothing_alike hm hk)
    | returned hv => exact .some ⟨.finish (.returned hv), hm, hk⟩
    | normal | nextTurn =>
      cases h with
      | nil => exact .some (nothing_alike hm hk)
      | cons hv h =>
        exact .some ⟨.execute _ _, hm.with_scopes (alike_define hm.scopes item hv),
          .cons (.each place item body h) hk⟩
  | @plain frame hplain =>
    cases frame with
    | caller | each => cases hplain
    | sequel place i rest =>
      cases hflow with
      | normal hv =>
        cases rest with
        | nil => exact .some ⟨.finish (.normal hv), hm, hk⟩
        | cons s rest => exact .some ⟨.execute _ s, hm, .cons (.plain rfl) hk⟩
      | returned hv => exact .some ⟨.finish (.returned hv), hm, hk⟩
      | leftLoop => exact .some ⟨.finish .leftLoop, hm, hk⟩
      | nextTurn => exact .some ⟨.finish .nextTurn, hm, hk⟩
    | turn place c body =>
      cases hflow with
      | leftLoop => exact .some (nothing_alike hm hk)
      | returned hv => exact .some ⟨.finish (.returned hv), hm, hk⟩
      | normal | nextTurn => exact .some ⟨.evaluate c, hm, .cons (.plain rfl) hk⟩
    | scope => exact .some ⟨.finish hflow, hm.with_scopes (alike_popped hm.scopes), hk⟩
    | script => exact .some (given_alike (callResult_alike hflow hm) hk)
    | _ => exact .none

lemma close_alike {frame frame' : Frame} (h : frame.Alike frame') (hm : m.Alike m') :
    (frame.close m).Alike (frame'.close m') := by
  cases h with
  | caller evalDepth h => exact ⟨h, hm.steps, congrArg (· - 1) hm.callDepth, rfl⟩
  | right | key | argument | item | property | each => exact hm
  | @plain frame hplain =>
    cases frame with
    | expression => exact ⟨hm.scopes, hm.steps, hm.callDepth, congrArg (· - 1) hm.evalDepth⟩
    | scope => exact hm.with_scopes (alike_popped hm.scopes)
    | caller => cases hplain
    | _ => exact hm

/-- Moments that are alike are followed by moments that are alike, or end
the run both. -/
theorem step_alike (hrun : run.Alike run') {c d : Moment} (h : c.Alike d) :
    Option.Rel Moment.Alike (run.step? c) (run'.step? d) := by
  obtain ⟨task, m, k⟩ := c
  obtain ⟨task', m', k'⟩ := d
  obtain ⟨htask, hm, hk⟩ := h
  have htick := tick_alike hrun hm
  cases htask with
  | evaluate e =>
    have hdeeper : Machine.Alike { m with evalDepth := m.evalDepth + 1 }
        { m' with evalDepth := m'.evalDepth + 1 } :=
      ⟨hm.scopes, hm.steps, hm.callDepth, congrArg (· + 1) hm.evalDepth⟩
    have hopens : run.limits.maxNesting ≤ m.evalDepth ↔ run'.limits.maxNesting ≤ m'.evalDepth := by
      rw [hrun.limits, hm.evalDepth]
    rw [Run.step?, Run.step?]
    by_cases hopen : run.limits.maxNesting ≤ m.evalDepth
    · rw [if_pos hopen, if_pos (hopens.mp hopen), hrun.limits]
      exact .some ⟨.fail _, hm, hk⟩
    · rw [if_neg hopen, if_neg (hopens.not.mp hopen)]
      exact .some ⟨.enter e, hdeeper, .cons (.plain rfl) hk⟩
  | enter e =>
    rw [Run.step?, Run.step?]
    generalize run.tick m = r at htick
    generalize run'.tick m' = r' at htick
    cases htick with
    | ok _ hm => exact .some (enter_alike hrun e hm hk)
    | error hm => exact .some ⟨.fail _, hm, hk⟩
  | execute place s =>
    rw [Run.step?, Run.step?]
    generalize run.tick m = r at htick
    generalize run'.tick m' = r' at htick
    cases htick with
    | ok _ hm => exact .some (begin_alike hrun place s hm hk)
    | error hm => exact .some ⟨.fail _, hm, hk⟩
  | give hv =>
    cases hk with
    | nil => exact .none
    | cons hframe hk => exact take_alike hrun hv hm hframe hk
  | finish hflow =>
    cases hk with
    | nil => exact .none
    | cons hframe hk => exact resume_alike hflow hm hframe hk
  | fail e =>
    cases hk with
    | nil => exact .none
    | cons hframe hk => exact .some ⟨.fail e, close_alike hframe hm, hk⟩

end Steps

/-! ### Runs -/

/-- So many steps of a run in which every map may take another order before
every step, and after the last. -/
inductive Run.Stirred (run : Run) : Nat → Moment → Moment → Prop where
  | done : c.Alike c' → Stirred run 0 c c'
  | step : c.Alike d → run.Alike run' → run'.step? d = some d' → Stirred run n d' c' →
      Stirred run (n + 1) c c'

section Runs

variable {run run' : Run} {c c' d : Moment} {n : Nat}

/-- A run whose maps are stirred is alike to one whose maps are not, and goes
on as long as that one does. -/
theorem Run.Stirred.alike_after (h : run.Stirred n c c') (hc : c.Alike d) :
    c'.Alike (run.after n d) ∧ ∀ i < n, run.step? (run.after i d) ≠ none := by
  induction h generalizing d with
  | done h => exact ⟨h.symm.trans hc, fun i hi => absurd hi (Nat.not_lt_zero i)⟩
  | step hce hrun hstep _ ih =>
    rcases Bindings.rel_cases (step_alike hrun.symm (hce.symm.trans hc)) with
      ⟨hnone, -⟩ | ⟨e, d', he, hd, hed⟩
    · rw [hstep] at hnone
      cases hnone
    · rw [hstep] at he
      cases he
      obtain ⟨hafter, hgoes⟩ := ih hed
      have hafter_succ (i : Nat) : run.after (i + 1) d = run.after i d' := by rw [Run.after, hd]
      refine ⟨hafter_succ _ ▸ hafter, fun i hi => ?_⟩
      cases i with
      | zero =>
        rw [Run.after, hd]
        exact Option.some_ne_none d'
      | succ i =>
        rw [hafter_succ]
        exact hgoes i (Nat.lt_of_succ_lt_succ hi)

/-- The maps may be stirred once more at the end. -/
lemma Run.Stirred.stirred_end (h : run.Stirred n c c') (hd : c'.Alike d) : run.Stirred n c d := by
  induction h with
  | done h => exact .done (h.trans hd)
  | step hce hrun hstep _ ih => exact .step hce hrun hstep (ih hd)

/-- A run without any stirring. -/
theorem stirred_after (hrun : run.Alike run) (hc : c.Alike c)
    (hgoes : ∀ i < n, run.step? (run.after i c) ≠ none) : run.Stirred n c (run.after n c) := by
  induction n generalizing c with
  | zero => exact .done hc
  | succ n ih =>
    cases hstep : run.step? c with
    | none => exact absurd hstep (hgoes 0 (Nat.succ_pos n))
    | some d =>
      have hd : d.Alike d := by
        have hnext := step_alike hrun hc
        rw [hstep] at hnext
        cases hnext with
        | some h => exact h
      have hafter_succ (i : Nat) : run.after (i + 1) c = run.after i d := by rw [Run.after, hstep]
      refine .step hc hrun hstep (hafter_succ n ▸ ih hd fun i hi => ?_)
      rw [← hafter_succ]
      exact hgoes (i + 1) (Nat.succ_lt_succ hi)

lemma start_alike (code : Code) : (Moment.start code).Alike (.start code) := by
  have hscopes : ScopesAlike Machine.start.scopes Machine.start.scopes :=
    .cons Bindings.related_nil .nil
  exact nothing_alike ⟨hscopes, rfl, rfl, rfl⟩ (.cons (.plain rfl) (.cons (.plain rfl) .nil))

lemma step?_eq_none_iff (hrun : run.Alike run') (h : c.Alike d) :
    run.step? c = none ↔ run'.step? d = none := by
  rcases Bindings.rel_cases (step_alike hrun h) with ⟨hc, hd⟩ | ⟨_, _, hc, hd, -⟩
  · rw [hc, hd]
  · rw [hc, hd]
    exact iff_of_false (Option.some_ne_none _) (Option.some_ne_none _)

/-- What is alike to the end of a script is the end of a script. -/
lemma ended_of_alike {r : EStateM.Result RuntimeError Machine Value} (h : c.Alike (.ended r)) :
    ∃ r', c = .ended r' ∧ EndsAlike Value.Alike r' r := by
  obtain ⟨task, m, k⟩ := c
  obtain ⟨htask, hm, hk⟩ := h
  cases r with
  | ok v m' =>
    cases htask with
    | @give w _ hw =>
      cases hk
      exact ⟨.ok w m, rfl, .ok hw hm⟩
  | error e m' =>
    cases htask
    cases hk
    exact ⟨.error e m, rfl, .error hm⟩

end Runs

end MockupStudio.Script
