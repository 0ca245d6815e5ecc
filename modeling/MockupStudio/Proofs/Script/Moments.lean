/-
A run of a script moment by moment.

The evaluator gives the outcome of a run; it does not say what is open while
the run goes on, and it is told how deep it may go. Here a run is taken one
step at a time, with nothing but the limits of the script to end it.

* `Task`: what a run is doing; `Frame`: what is left to do afterwards;
* `Moment`: a task, the machine, and the frames that are open;
* `Run.step?`: the next moment, none when the run is over;
* `Run.after`: the moment after so many steps.

`Proofs.Script.Agreement` shows that the evaluator gives what these steps
come to.
-/
import MockupStudio.Proofs.Script.Preservation

namespace MockupStudio.Script

/-- What a run is doing. -/
inductive Task where
  /-- An expression is asked for. -/
  | evaluate (e : Expr)
  /-- An expression that has been let in is begun. -/
  | enter (e : Expr)
  /-- A statement at a place is begun. -/
  | execute (place : List Nat) (s : Stmt)
  /-- An expression has given a value. -/
  | give (v : Value)
  /-- A statement has ended. -/
  | finish (flow : Flow)
  | fail (e : RuntimeError)

/-- What is left to do when a task is done. -/
inductive Frame where
  /-- An expression is open. -/
  | expression
  | left (op : BinaryOp) (right : Expr)
  | right (op : BinaryOp) (left : Value)
  | operand (op : UnaryOp)
  | callee (arguments : List Expr)
  | argument (callee : Value) (done : List Value) (rest : List Expr)
  | indexed (key : Expr)
  | key (object : Value)
  | member (key : String)
  | item (done : List Value) (rest : List Expr)
  | property (done : List (String × Value)) (key : String) (rest : List (String × Expr))
  /-- A function body is open; what its caller goes on with. -/
  | caller (scopes : List Scope) (evalDepth : Nat)
  | value
  | declare (name : String)
  | assign (name : String)
  | branch (place : List Nat) (body : List Stmt) (otherwise : Otherwise)
  | condition (place : List Nat) (condition : Expr) (body : List Stmt)
  | turn (place : List Nat) (condition : Expr) (body : List Stmt)
  | source (place : List Nat) (item : String) (body : List Stmt)
  | each (place : List Nat) (item : String) (body : List Stmt) (rest : List Value)
  | result
  /-- A scope is open. -/
  | scope
  /-- The statements that are left of a list, from an index on. -/
  | sequel (place : List Nat) (i : Nat) (rest : List Stmt)
  | script

/-- A moment of a run. -/
structure Moment where
  task : Task
  machine : Machine
  /-- What is left to do, the next first. -/
  pending : List Frame

/-- The moment at which a part of a run has ended. -/
def Moment.settled (done : α → Task) (pending : List Frame) :
    EStateM.Result RuntimeError Machine α → Moment
  | .ok a m => ⟨done a, m, pending⟩
  | .error e m => ⟨.fail e, m, pending⟩

/-- The moment before the first statement of a script. -/
def Moment.start (code : Code) : Moment :=
  ⟨.finish (.normal .null), .start, [.sequel [] 0 code, .script]⟩

/-- The moment at which a script has ended. -/
def Moment.ended : EStateM.Result RuntimeError Machine Value → Moment := settled .give []

/-- The machine when what a frame stands for is left, in whatever way. -/
def Frame.close : Frame → Machine → Machine
  | .expression, m => { m with evalDepth := m.evalDepth - 1 }
  | .scope, m => { m with scopes := popped m.scopes }
  | .caller scopes evalDepth, m => ⟨scopes, m.steps, m.callDepth - 1, evalDepth⟩
  | _, m => m

namespace Run

/-! ### Single steps -/

/-- A call with all arguments given. -/
def call (run : Run) (f : Value) (arguments : List Value) (m : Machine) (k : List Frame) :
    Moment :=
  match f with
  | .function name parameters body captured id =>
    if arguments.length ≠ parameters.length then
      ⟨.fail (.arity name parameters.length arguments.length), m, k⟩
    else if run.limits.maxCallDepth ≤ m.callDepth then
      ⟨.fail (.callDepth run.limits.maxCallDepth), m, k⟩
    else
      ⟨.finish (.normal .null),
        ⟨callScopes f name parameters captured arguments, m.steps, m.callDepth + 1, 0⟩,
        .sequel (bodyPlace id) 0 body :: .caller m.scopes m.evalDepth :: k⟩
  | .native native => .settled .give k (run.callNative native arguments m)
  | v => ⟨.fail (.notCallable v.typeName), m, k⟩

/-- A call with some arguments given and the others left. -/
def argumentsLeft (run : Run) (f : Value) (done : List Value) (rest : List Expr) (m : Machine)
    (k : List Frame) : Moment :=
  match rest with
  | [] => run.call f done m k
  | e :: rest => ⟨.evaluate e, m, .argument f done rest :: k⟩

/-- An array with some items given and the others left. -/
def itemsLeft (run : Run) (done : List Value) (rest : List Expr) (m : Machine)
    (k : List Frame) : Moment :=
  match rest with
  | [] => .settled .give k (run.bounded (.array done) m)
  | e :: rest => ⟨.evaluate e, m, .item done rest :: k⟩

/-- An object with some members given and the others left. -/
def membersLeft (run : Run) (done : List (String × Value)) (rest : List (String × Expr))
    (m : Machine) (k : List Frame) : Moment :=
  match rest with
  | [] => .settled .give k (run.bounded (.object (Bindings.ofList done)) m)
  | (key, e) :: rest => ⟨.evaluate e, m, .property done key rest :: k⟩

/-- The beginning of an expression. -/
def enter (run : Run) (e : Expr) (m : Machine) (k : List Frame) : Moment :=
  match e with
  | .literal l => ⟨.give (ofLiteral l), m, k⟩
  | .name x => .settled .give k (run.read x m)
  | .binary op left right => ⟨.evaluate left, m, .left op right :: k⟩
  | .unary op operand => ⟨.evaluate operand, m, .operand op :: k⟩
  | .call callee arguments => ⟨.evaluate callee, m, .callee arguments :: k⟩
  | .index object key => ⟨.evaluate object, m, .indexed key :: k⟩
  | .member object key => ⟨.evaluate object, m, .member key :: k⟩
  | .array items => run.itemsLeft [] items m k
  | .object members => run.membersLeft [] members m k
  | .lambda parameters body => .settled .give k (run.lambda parameters body m)

/-- The beginning of a statement. -/
def begin (run : Run) (place : List Nat) (s : Stmt) (m : Machine) (k : List Frame) : Moment :=
  match s with
  | .expr e => ⟨.evaluate e, m, .value :: k⟩
  | .declare x value => ⟨.evaluate (value.getD (.literal .null)), m, .declare x :: k⟩
  | .assign x value => ⟨.evaluate value, m, .assign x :: k⟩
  | .block body =>
    ⟨.finish (.normal .null), { m with scopes := [] :: m.scopes },
      .sequel place 0 body :: .scope :: k⟩
  | .branch condition body otherwise =>
    ⟨.evaluate condition, m, .branch place body otherwise :: k⟩
  | .loop condition body => ⟨.evaluate condition, m, .condition place condition body :: k⟩
  | .each item source body => ⟨.evaluate source, m, .source place item body :: k⟩
  | .function name parameters body =>
    match run.closure name parameters body (.declared run.serial place) m with
    | .ok f m => ⟨.finish (.normal .null), { m with scopes := Script.define name f m.scopes }, k⟩
    | .error e m => ⟨.fail e, m, k⟩
  | .result none => ⟨.finish (.returned .null), m, k⟩
  | .result (some e) => ⟨.evaluate e, m, .result :: k⟩
  | .leaveLoop => ⟨.finish .leftLoop, m, k⟩
  | .nextTurn => ⟨.finish .nextTurn, m, k⟩

/-- What is done when a condition fails. -/
def otherwise (place : List Nat) (m : Machine) (k : List Frame) : Otherwise → Moment
  | .nothing => ⟨.finish (.normal .null), m, k⟩
  | .block body => ⟨.execute (1 :: place) (.block body), m, k⟩
  | .branch condition body otherwise =>
    ⟨.execute (1 :: place) (.branch condition body otherwise), m, k⟩

/-- The value of an expression goes to a frame. -/
def take? (run : Run) (v : Value) (m : Machine) (k : List Frame) : Frame → Option Moment
  | .expression => some ⟨.give v, Frame.expression.close m, k⟩
  | .left op right =>
    some (if op.decidedBy v then ⟨.give v, m, k⟩ else ⟨.evaluate right, m, .right op v :: k⟩)
  | .right op left =>
    some (if op.shortCircuits then ⟨.give v, m, k⟩
      else .settled .give k (lift (Value.binary? op left v) m))
  | .operand op => some (.settled .give k (lift (Value.unary? op v) m))
  | .callee arguments => some (run.argumentsLeft v [] arguments m k)
  | .argument f done rest => some (run.argumentsLeft f (done ++ [v]) rest m k)
  | .indexed key => some ⟨.evaluate key, m, .key v :: k⟩
  | .key object => some (.settled .give k (lift (Value.index? object v) m))
  | .member key => some (.settled .give k (lift (Value.member? v key) m))
  | .item done rest => some (run.itemsLeft (done ++ [v]) rest m k)
  | .property done key rest => some (run.membersLeft (done ++ [(key, v)]) rest m k)
  | .value => some ⟨.finish (.normal v), m, k⟩
  | .declare x =>
    some ⟨.finish (.normal .null), { m with scopes := Script.define x v m.scopes }, k⟩
  | .assign x => some (.settled (fun _ => .finish (.normal .null)) k (run.assign x v m))
  | .branch place body o =>
    some (if v.truthy then ⟨.execute (0 :: place) (.block body), m, k⟩ else otherwise place m k o)
  | .condition place c body =>
    some (if v.truthy then ⟨.execute place (.block body), m, .turn place c body :: k⟩
      else ⟨.finish (.normal .null), m, k⟩)
  | .source place item body =>
    match Value.iteration? v with
    | .ok items =>
      some ⟨.finish (.normal .null), { m with scopes := [] :: m.scopes },
        .each place item body items :: .scope :: k⟩
    | .error e => some ⟨.fail e, m, k⟩
  | .result => some ⟨.finish (.returned v), m, k⟩
  | _ => none

/-- The end of a statement goes to a frame. -/
def resume? (flow : Flow) (m : Machine) (k : List Frame) : Frame → Option Moment
  | .sequel place i rest =>
    match flow, rest with
    | .normal _, s :: rest => some ⟨.execute (i :: place) s, m, .sequel place (i + 1) rest :: k⟩
    | flow, _ => some ⟨.finish flow, m, k⟩
  | .turn place c body =>
    match flow with
    | .leftLoop => some ⟨.finish (.normal .null), m, k⟩
    | .returned v => some ⟨.finish (.returned v), m, k⟩
    | _ => some ⟨.evaluate c, m, .condition place c body :: k⟩
  | .each place item body rest =>
    match flow, rest with
    | .leftLoop, _ => some ⟨.finish (.normal .null), m, k⟩
    | .returned v, _ => some ⟨.finish (.returned v), m, k⟩
    | _, [] => some ⟨.finish (.normal .null), m, k⟩
    | _, v :: rest =>
      some ⟨.execute place (.block body), { m with scopes := Script.define item v m.scopes },
        .each place item body rest :: k⟩
  | .scope => some ⟨.finish flow, Frame.scope.close m, k⟩
  | .caller scopes evalDepth =>
    some (.settled .give k (callResult flow ((Frame.caller scopes evalDepth).close m)))
  | .script => some (.settled .give k (callResult flow m))
  | _ => none

/-- The next moment of a run. -/
def step? (run : Run) : Moment → Option Moment
  | ⟨.evaluate e, m, k⟩ =>
    some (if run.limits.maxNesting ≤ m.evalDepth then
        ⟨.fail (.nestingLimit run.limits.maxNesting), m, k⟩
      else ⟨.enter e, { m with evalDepth := m.evalDepth + 1 }, .expression :: k⟩)
  | ⟨.enter e, m, k⟩ =>
    match run.tick m with
    | .ok _ m => some (run.enter e m k)
    | .error fault m => some ⟨.fail fault, m, k⟩
  | ⟨.execute place s, m, k⟩ =>
    match run.tick m with
    | .ok _ m => some (run.begin place s m k)
    | .error fault m => some ⟨.fail fault, m, k⟩
  | ⟨.give v, m, frame :: k⟩ => run.take? v m k frame
  | ⟨.finish flow, m, frame :: k⟩ => resume? flow m k frame
  | ⟨.fail e, m, frame :: k⟩ => some ⟨.fail e, frame.close m, k⟩
  | ⟨_, _, []⟩ => none

/-- The moment after so many steps; a run that is over stays as it is. -/
def after (run : Run) : Nat → Moment → Moment
  | 0, c => c
  | n + 1, c =>
    match run.step? c with
    | some c => run.after n c
    | none => c

end Run

end MockupStudio.Script
