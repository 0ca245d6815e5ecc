/-
The code and the values of a moment of a run.

What a run can get at depends on what its script writes down: literals, keys and
the lengths of arrays. Here the code that is still to be run is followed along
with the values.

* `StableOver`: a property of values that every way of making a value keeps, when
  the expressions of a script fulfil a condition;
* `Moment.Consists`: the code of a moment fulfils the condition, that of functions
  kept as values included, and its values have the property;
* `Moment.Consists.step`: every step keeps that;
* `consists_after_start`: so it is at every moment of a script.
-/
import MockupStudio.Proofs.Script.Counters
import MockupStudio.Proofs.Script.Parts

namespace MockupStudio.Script

/-- A property of values that is kept by every way of making a value, when the
expressions of a script fulfil a condition. -/
structure StableOver (run : Run) (C : Expr → Prop) (P : Value → Prop) : Prop where
  /-- What a variable that is declared without a value is given. -/
  blank : C (.literal .null)
  helpers : ∀ b ∈ run.helpers, P b.2
  literal {l} : C (.literal l) → P (Run.ofLiteral l)
  binary {op a b v} : P a → P b → Value.binary? op a b = .ok v → P v
  unary {op a v} : P a → Value.unary? op a = .ok v → P v
  index {a key v} : P a → Value.index? a key = .ok v → P v
  member {a key v} : P a → Value.member? a key = .ok v → P v
  iteration {a vs} : P a → Value.iteration? a = .ok vs → ∀ v ∈ vs, P v
  array {items vs} : C (.array items) → vs.length = items.length → (∀ v ∈ vs, P v) →
    run.Fits (.array vs) → P (.array vs)
  object {members} {pairs : List (String × Value)} : C (.object members) →
    pairs.map Prod.fst = members.map Prod.fst → (∀ pair ∈ pairs, P pair.2) →
      run.Fits (.object (Bindings.ofList pairs)) → P (.object (Bindings.ofList pairs))
  closure {name parameters body captured id} : Code.Every C body → (∀ b ∈ captured, P b.2) →
    run.Fits (.function name parameters body (some captured) id) →
      P (.function name parameters body (some captured) id)
  body {name parameters body captured id} : P (.function name parameters body captured id) →
    Code.Every C body
  captured {name parameters body scope id} : P (.function name parameters body (some scope) id) →
    ∀ b ∈ scope, P b.2
  native {f arguments v} : P (.native f) → (∀ a ∈ arguments, P a) →
    f.call arguments run.globals.host = .ok v → run.Fits v → P v

lemma StableOver.null {run : Run} {C : Expr → Prop} {P : Value → Prop} (h : StableOver run C P) :
    P .null := h.literal h.blank

/-- What a task is made of. -/
def Task.Consists (C : Expr → Prop) (P : Value → Prop) : Task → Prop
  | .evaluate e | .enter e => e.Every C
  | .execute _ s => s.Every C
  | .give v => P v
  | .finish flow => flow.Holds P
  | .fail _ => True

/-- What a frame is made of. Of an array or an object that is being built it is
known what the script writes down. -/
def Frame.Consists (C : Expr → Prop) (P : Value → Prop) : Frame → Prop
  | .left _ e | .indexed e => e.Every C
  | .right _ v | .key v => P v
  | .callee arguments => ∀ e ∈ arguments, e.Every C
  | .argument f done rest => P f ∧ (∀ v ∈ done, P v) ∧ ∀ e ∈ rest, e.Every C
  | .item done rest => (∀ v ∈ done, P v) ∧ (∀ e ∈ rest, e.Every C)
      ∧ ∃ items, C (.array items) ∧ done.length + 1 + rest.length = items.length
  | .property done name rest => (∀ pair ∈ done, P pair.2) ∧ (∀ member ∈ rest, member.2.Every C)
      ∧ ∃ members, C (.object members)
        ∧ done.map Prod.fst ++ name :: rest.map Prod.fst = members.map Prod.fst
  | .caller scopes _ => Script.Holds P scopes
  | .branch _ body otherwise => Code.Every C body ∧ otherwise.Every C
  | .condition _ e body | .turn _ e body => e.Every C ∧ Code.Every C body
  | .source _ _ body => Code.Every C body
  | .each _ _ body rest => Code.Every C body ∧ ∀ v ∈ rest, P v
  | .sequel _ _ rest => Code.Every C rest
  | .expression | .operand _ | .member _ | .value | .declare _ | .assign _ | .result | .scope
  | .script => True

/-- What a moment is made of. -/
structure Moment.Consists (C : Expr → Prop) (P : Value → Prop) (c : Moment) : Prop where
  task : c.task.Consists C P
  scopes : Script.Holds P c.machine.scopes
  pending : ∀ frame ∈ c.pending, frame.Consists C P

section Steps

variable {run : Run} {C : Expr → Prop} {P : Value → Prop} {m : Machine} {k : List Frame}
  {frame : Frame} {task : Task} {c c' : Moment} {v f : Value} {α : Type}

/-- Values that are put aside one more at a time. -/
lemma forall_mem_concat {Q : α → Prop} {as : List α} {a : α} (h : ∀ b ∈ as, Q b) (ha : Q a) :
    ∀ b ∈ as ++ [a], Q b :=
  List.forall_mem_append.mpr ⟨h, List.forall_mem_singleton.mpr ha⟩

lemma Ends.settled {R : α → Prop} {r : EStateM.Result RuntimeError Machine α} {done : α → Task}
    (h : Ends P R r) (hdone : ∀ a, R a → (done a).Consists C P)
    (hk : ∀ frame ∈ k, frame.Consists C P) : (Moment.settled done k r).Consists C P := by
  cases h with
  | ok ha hm => exact ⟨hdone _ ha, hm, hk⟩
  | error hm => exact ⟨trivial, hm, hk⟩

lemma Ends.given {r : EStateM.Result RuntimeError Machine Value} (h : Ends P P r)
    (hk : ∀ frame ∈ k, frame.Consists C P) : (Moment.settled .give k r).Consists C P :=
  h.settled (fun _ hv => hv) hk

/-- A frame is opened. -/
lemma Moment.Consists.opened (htask : task.Consists C P) (hm : Script.Holds P m.scopes)
    (hk : ∀ frame ∈ k, frame.Consists C P) (hframe : frame.Consists C P) :
    Moment.Consists C P ⟨task, m, frame :: k⟩ :=
  ⟨htask, hm, List.forall_mem_cons.mpr ⟨hframe, hk⟩⟩

/-! ### Beginnings -/

lemma consists_call (hP : StableOver run C P) (hf : P f) {arguments : List Value}
    (ha : ∀ a ∈ arguments, P a) (hm : Holds P m.scopes) (hk : ∀ frame ∈ k, frame.Consists C P) :
    (run.call f arguments m k).Consists C P := by
  cases f with
  | function name parameters body captured id =>
    rw [Run.call]
    split
    · exact ⟨trivial, hm, hk⟩
    · split
      · exact ⟨trivial, hm, hk⟩
      · have hpending : ∀ frame ∈ .caller m.scopes m.evalDepth :: k, frame.Consists C P :=
          List.forall_mem_cons.mpr ⟨hm, hk⟩
        exact .opened hP.null (holds_callScopes (fun _ => hP.captured) hf ha) hpending (hP.body hf)
  | native f => exact (keeps_callNative (fun _ => hP.native hf ha) m hm).given hk
  | _ => exact ⟨trivial, hm, hk⟩

lemma consists_argumentsLeft (hP : StableOver run C P) (hf : P f) {done : List Value}
    (hdone : ∀ a ∈ done, P a) {rest : List Expr} (hrest : ∀ e ∈ rest, e.Every C)
    (hm : Holds P m.scopes) (hk : ∀ frame ∈ k, frame.Consists C P) :
    (run.argumentsLeft f done rest m k).Consists C P := by
  cases rest with
  | nil => exact consists_call hP hf hdone hm hk
  | cons e rest =>
    obtain ⟨he, hrest⟩ := List.forall_mem_cons.mp hrest
    exact .opened he hm hk ⟨hf, hdone, hrest⟩

lemma consists_itemsLeft (hP : StableOver run C P) {items : List Expr} (hitems : C (.array items))
    {done : List Value} (hdone : ∀ v ∈ done, P v) {rest : List Expr}
    (hrest : ∀ e ∈ rest, e.Every C) (hlength : done.length + rest.length = items.length)
    (hm : Holds P m.scopes) (hk : ∀ frame ∈ k, frame.Consists C P) :
    (run.itemsLeft done rest m k).Consists C P := by
  cases rest with
  | nil => exact (keeps_bounded (hP.array hitems hlength hdone) m hm).given hk
  | cons e rest =>
    obtain ⟨he, hrest⟩ := List.forall_mem_cons.mp hrest
    refine .opened he hm hk ⟨hdone, hrest, items, hitems, ?_⟩
    rw [← hlength, List.length_cons]
    omega

lemma consists_membersLeft (hP : StableOver run C P) {members : List (String × Expr)}
    (hmembers : C (.object members)) {done : List (String × Value)}
    (hdone : ∀ pair ∈ done, P pair.2) {rest : List (String × Expr)}
    (hrest : ∀ member ∈ rest, member.2.Every C)
    (hkeys : done.map Prod.fst ++ rest.map Prod.fst = members.map Prod.fst)
    (hm : Holds P m.scopes) (hk : ∀ frame ∈ k, frame.Consists C P) :
    (run.membersLeft done rest m k).Consists C P := by
  cases rest with
  | nil =>
    have hkeys : done.map Prod.fst = members.map Prod.fst := by simpa using hkeys
    exact (keeps_bounded (hP.object hmembers hkeys hdone) m hm).given hk
  | cons member rest =>
    obtain ⟨he, hrest⟩ := List.forall_mem_cons.mp hrest
    exact .opened he hm hk ⟨hdone, hrest, members, hmembers, hkeys⟩

lemma consists_enter (hP : StableOver run C P) {e : Expr} (he : e.Every C)
    (hm : Holds P m.scopes) (hk : ∀ frame ∈ k, frame.Consists C P) :
    (run.enter e m k).Consists C P := by
  cases e with
  | literal l => exact ⟨hP.literal (every_literal.mp he), hm, hk⟩
  | name x => exact (keeps_read hP.helpers x m hm).given hk
  | binary op left right =>
    obtain ⟨-, hleft, hright⟩ := every_binary.mp he
    exact .opened hleft hm hk hright
  | unary op operand => exact .opened (every_unary.mp he).2 hm hk trivial
  | call callee arguments =>
    obtain ⟨-, hcallee, harguments⟩ := every_call.mp he
    exact .opened hcallee hm hk harguments
  | index base key =>
    obtain ⟨-, hbase, hkey⟩ := every_index.mp he
    exact .opened hbase hm hk hkey
  | member base key => exact .opened (every_member.mp he).2 hm hk trivial
  | array items =>
    obtain ⟨hitems, hrest⟩ := every_array.mp he
    have hlength : ([] : List Value).length + items.length = items.length := Nat.zero_add _
    exact consists_itemsLeft hP hitems (fun _ h => (List.not_mem_nil h).elim) hrest hlength hm hk
  | object members =>
    obtain ⟨hmembers, hrest⟩ := every_object.mp he
    exact consists_membersLeft hP hmembers (fun _ h => (List.not_mem_nil h).elim) hrest rfl hm hk
  | lambda parameters body =>
    have hbody : Code.Every C [.result (some body)] :=
      every_cons.mpr ⟨every_result.mpr (every_lambda.mp he).2, every_nil⟩
    exact (keeps_bounded (hP.closure hbody hm.flattened) m hm).given hk

lemma consists_begin (hP : StableOver run C P) (place : List Nat) {s : Stmt} (hs : s.Every C)
    (hm : Holds P m.scopes) (hk : ∀ frame ∈ k, frame.Consists C P) :
    (run.begin place s m k).Consists C P := by
  have hnull : P .null := hP.null
  cases s with
  | expr e => exact .opened hs hm hk trivial
  | declare x value => exact .opened hs hm hk trivial
  | assign x value => exact .opened hs hm hk trivial
  | block body =>
    exact .opened hnull hm.push (List.forall_mem_cons.mpr ⟨trivial, hk⟩) hs
  | branch condition body otherwise =>
    obtain ⟨hcondition, hbody⟩ := every_branch.mp hs
    exact .opened hcondition hm hk hbody
  | loop condition body =>
    obtain ⟨hcondition, hbody⟩ := every_loop.mp hs
    exact .opened hcondition hm hk ⟨hcondition, hbody⟩
  | each item source body =>
    obtain ⟨hsource, hbody⟩ := every_each.mp hs
    exact .opened hsource hm hk hbody
  | function name parameters body =>
    have hclosure : Ends P P (run.closure name parameters body (.declared run.serial place) m) :=
      keeps_bounded (hP.closure hs hm.flattened) m hm
    rw [Run.begin]
    generalize run.closure name parameters body (.declared run.serial place) m = r at hclosure
    cases hclosure with
    | ok hf hm => exact ⟨hnull, hm.define hf, hk⟩
    | error hm => exact ⟨trivial, hm, hk⟩
  | result value =>
    cases value with
    | none => exact ⟨hnull, hm, hk⟩
    | some e => exact .opened hs hm hk trivial
  | leaveLoop | nextTurn => exact ⟨trivial, hm, hk⟩

lemma consists_otherwise (hnull : P .null) (place : List Nat) {o : Otherwise} (ho : o.Every C)
    (hm : Holds P m.scopes) (hk : ∀ frame ∈ k, frame.Consists C P) :
    (Run.otherwise place m k o).Consists C P := by
  cases o with
  | nothing => exact ⟨hnull, hm, hk⟩
  | block | branch => exact ⟨ho, hm, hk⟩

/-! ### Frames -/

/-- A value goes to a frame. -/
lemma consists_take (hP : StableOver run C P) (hv : P v) (hm : Holds P m.scopes)
    (hframe : frame.Consists C P) (hk : ∀ frame ∈ k, frame.Consists C P)
    (h : run.take? v m k frame = some c) : c.Consists C P := by
  have hnull : P .null := hP.null
  cases frame with
  | expression | value | result => cases h; exact ⟨hv, hm, hk⟩
  | left op right =>
    cases h
    split
    · exact ⟨hv, hm, hk⟩
    · exact .opened hframe hm hk hv
  | right op left =>
    cases h
    split
    · exact ⟨hv, hm, hk⟩
    · exact (keeps_lift (fun _ => hP.binary hframe hv) m hm).given hk
  | operand op => cases h; exact (keeps_lift (fun _ => hP.unary hv) m hm).given hk
  | callee arguments =>
    cases h
    exact consists_argumentsLeft hP hv (fun _ h => (List.not_mem_nil h).elim) hframe hm hk
  | argument f done rest =>
    cases h
    obtain ⟨hf, hdone, hrest⟩ := hframe
    exact consists_argumentsLeft hP hf (forall_mem_concat hdone hv) hrest hm hk
  | indexed key => cases h; exact .opened hframe hm hk hv
  | key base => cases h; exact (keeps_lift (fun _ => hP.index hframe) m hm).given hk
  | member key => cases h; exact (keeps_lift (fun _ => hP.member hv) m hm).given hk
  | item done rest =>
    cases h
    obtain ⟨hdone, hrest, items, hitems, hlength⟩ := hframe
    refine consists_itemsLeft hP hitems (forall_mem_concat hdone hv) hrest ?_ hm hk
    rw [← hlength, List.length_append, List.length_singleton]
  | property done key rest =>
    cases h
    obtain ⟨hdone, hrest, members, hmembers, hkeys⟩ := hframe
    refine consists_membersLeft hP hmembers (forall_mem_concat hdone hv) hrest ?_ hm hk
    rw [← hkeys, List.map_append, List.append_assoc]
    rfl
  | declare x => cases h; exact ⟨hnull, hm.define hv, hk⟩
  | assign x => cases h; exact (keeps_assign hv m hm).settled (fun _ _ => hnull) hk
  | branch place body o =>
    cases h
    split
    · exact ⟨hframe.1, hm, hk⟩
    · exact consists_otherwise hnull place hframe.2 hm hk
  | condition place condition body =>
    cases h
    split
    · exact .opened hframe.2 hm hk hframe
    · exact ⟨hnull, hm, hk⟩
  | source place item body =>
    rw [Run.take?] at h
    split at h
    · next items hitems =>
      cases h
      have hpending : ∀ frame ∈ .scope :: k, frame.Consists C P :=
        List.forall_mem_cons.mpr ⟨trivial, hk⟩
      exact .opened hnull hm.push hpending ⟨hframe, hP.iteration hv hitems⟩
    · cases h; exact ⟨trivial, hm, hk⟩
  | caller | turn | each | scope | sequel | script => cases h

/-- The end of a statement goes to a frame. -/
lemma consists_resume (hnull : P .null) {flow : Flow} (hflow : flow.Holds P)
    (hm : Holds P m.scopes) (hframe : frame.Consists C P) (hk : ∀ frame ∈ k, frame.Consists C P)
    (h : Run.resume? flow m k frame = some c) : c.Consists C P := by
  cases frame with
  | sequel place i rest =>
    rw [Run.resume?.eq_def] at h
    dsimp only at h
    split at h
    · cases h
      obtain ⟨hs, hrest⟩ := every_cons.mp hframe
      exact .opened hs hm hk hrest
    · cases h; exact ⟨hflow, hm, hk⟩
  | turn place condition body =>
    rw [Run.resume?.eq_def] at h
    dsimp only at h
    split at h
    · cases h; exact ⟨hnull, hm, hk⟩
    · cases h; exact ⟨hflow, hm, hk⟩
    · cases h; exact .opened hframe.1 hm hk hframe
  | each place item body rest =>
    rw [Run.resume?.eq_def] at h
    dsimp only at h
    split at h
    · cases h; exact ⟨hnull, hm, hk⟩
    · cases h; exact ⟨hflow, hm, hk⟩
    · cases h; exact ⟨hnull, hm, hk⟩
    · cases h
      obtain ⟨hv, hrest⟩ := List.forall_mem_cons.mp hframe.2
      exact .opened hframe.1 (hm.define hv) hk ⟨hframe.1, hrest⟩
  | scope => cases h; exact ⟨hflow, hm.popped, hk⟩
  | caller scopes evalDepth =>
    cases h
    exact (keeps_callResult hnull hflow ((Frame.caller scopes evalDepth).close m) hframe).given hk
  | script => cases h; exact (keeps_callResult hnull hflow m hm).given hk
  | _ => cases h

lemma consists_close (frame : Frame) (hframe : frame.Consists C P) (hm : Holds P m.scopes) :
    Holds P (frame.close m).scopes := by
  cases frame with
  | scope => exact hm.popped
  | caller => exact hframe
  | _ => exact hm

/-! ### Runs -/

/-- Every step keeps what a moment is made of. -/
theorem Moment.Consists.step (hP : StableOver run C P) (hc : c.Consists C P)
    (h : run.step? c = some c') : c'.Consists C P := by
  obtain ⟨task, m, k⟩ := c
  obtain ⟨htask, hm, hk⟩ := hc
  have htick : Ends P (fun _ => True) (run.tick m) := keeps_tick m hm
  cases task with
  | evaluate e =>
    rw [Run.step?] at h
    cases h
    split
    · exact ⟨trivial, hm, hk⟩
    · exact .opened htask hm hk trivial
  | enter e =>
    rw [Run.step?] at h
    generalize run.tick m = r at htick h
    cases htick with
    | ok _ hm => cases h; exact consists_enter hP htask hm hk
    | error hm => cases h; exact ⟨trivial, hm, hk⟩
  | execute place s =>
    rw [Run.step?] at h
    generalize run.tick m = r at htick h
    cases htick with
    | ok _ hm => cases h; exact consists_begin hP place htask hm hk
    | error hm => cases h; exact ⟨trivial, hm, hk⟩
  | give v =>
    cases k with
    | nil => cases h
    | cons frame k =>
      obtain ⟨hframe, hk⟩ := List.forall_mem_cons.mp hk
      exact consists_take hP htask hm hframe hk h
  | finish flow =>
    cases k with
    | nil => cases h
    | cons frame k =>
      obtain ⟨hframe, hk⟩ := List.forall_mem_cons.mp hk
      exact consists_resume hP.null htask hm hframe hk h
  | fail e =>
    cases k with
    | nil => cases h
    | cons frame k =>
      obtain ⟨hframe, hk⟩ := List.forall_mem_cons.mp hk
      cases h
      exact ⟨trivial, consists_close frame hframe hm, hk⟩

/-- At every moment of a script whose expressions fulfil the condition, the code
that is left does so, and all values have the property. -/
theorem consists_after_start (hP : StableOver run C P) {code : Code} (hcode : Code.Every C code)
    (n : Nat) : (run.after n (.start code)).Consists C P := by
  have hstart : (Moment.start code).Consists C P := by
    have hpending : ∀ frame ∈ [Frame.script], frame.Consists C P :=
      List.forall_mem_singleton.mpr trivial
    have hscopes : Holds P Machine.start.scopes := Holds.push fun _ h => (List.not_mem_nil h).elim
    exact .opened hP.null hscopes hpending hcode
  exact after_induction (fun _ _ hc h => hc.step hP h) n hstart

end Steps

end MockupStudio.Script
