/-
Running scripts.

A run counts every statement and expression it begins as a step and keeps
three limits besides: open calls, expressions open in one function body, and
the nesting of every value that is built.

* `Globals`: what scripts see without declaring it, the functions among it that are
  no helpers being any functions of their arguments;
* `Machine`: the scopes, the steps taken, and how deep the run is;
* `evaluate`, `execute`: expressions and statements; their first argument
  bounds the statements and expressions open inside one another, and as each
  of them is a step, one more than the step limit is always enough;
* `apply`: calls; a function body sees its captured variables, its own name
  and its parameters, and nothing else of the caller;
* `Run.execute`, `Run.evaluate`: a whole script, a single expression.

A run that fails keeps the machine as it was when it failed, with every
scope that was opened closed again.
-/
import MockupStudio.Script.Library
import MockupStudio.Script.Limits
import MockupStudio.Script.Operators
import MockupStudio.Script.Scope

namespace MockupStudio.Script

/-- What scripts see without declaring it, and what the built-in functions among it
do that are no helpers. -/
structure Globals where
  scope : Scope
  host : Host := Host.none

instance : Coe Scope Globals := ⟨fun scope => { scope }⟩

/-- Nothing but what scripts declare. -/
def Globals.none : Globals := { scope := [] }

/-- What stays the same during a run. -/
structure Run where
  limits : Limits
  globals : Globals
  /-- Tells the functions of this run from those of others. -/
  serial : Nat := 0

/-- The variables that a script cannot assign to. -/
abbrev Run.helpers (run : Run) : Scope := run.globals.scope

/-- What changes during a run. -/
structure Machine where
  /-- The scopes that are open, the innermost first. -/
  scopes : List Scope
  /-- Statements and expressions evaluated so far. Words of 64 bits count them as long as
  the limit is below the last word, as no run goes on past it. -/
  steps : Nat
  /-- Function calls that are open. -/
  callDepth : Nat
  /-- Expressions that are open in the function body that runs. -/
  evalDepth : Nat
  deriving Inhabited

/-- The machine before the first step. -/
def Machine.start : Machine := ⟨[[]], 0, 0, 0⟩

/-- How a statement ends. -/
inductive Flow where
  | normal (value : Value)
  | returned (value : Value)
  | leftLoop
  | nextTurn
  deriving Inhabited

/-- A part of a run. -/
abbrev Eval := EStateM RuntimeError Machine

namespace Run

/-- Counts a step. -/
def tick (run : Run) : Eval Unit := fun m =>
  let m := { m with steps := m.steps + 1 }
  if run.limits.maxSteps < m.steps then .error (.stepLimit run.limits.maxSteps) m else .ok () m

/-- The outcome of a pure operation. -/
def lift (r : Except RuntimeError α) : Eval α := fun m =>
  match r with
  | .ok a => .ok a m
  | .error e => .error e m

/-- A value, refused if it nests deeper than an expansion would walk. -/
def bounded (run : Run) (v : Value) : Eval Value := fun m =>
  let limit := run.limits.maxResolveDepth
  if limit < v.countUpTo limit then .error (.valueTooDeep limit) m else .ok v m

/-- The value of a name. -/
def read (run : Run) (name : String) : Eval Value := fun m =>
  match (Environment.mk m.scopes run.helpers).get? name with
  | some v => .ok v m
  | none => .error (.undefinedVariable name) m

/-- Defines a variable in the innermost scope. -/
def define (name : String) (v : Value) : Eval Unit := fun m =>
  .ok () { m with scopes := Script.define name v m.scopes }

/-- Assigns to a local variable. -/
def assign (run : Run) (name : String) (v : Value) : Eval Unit := fun m =>
  match (Environment.mk m.scopes run.helpers).assign name v with
  | (.updated, env) => .ok () { m with scopes := env.scopes }
  | (.readOnly, _) => .error (.readOnly name) m
  | (.undefined, _) => .error (.undefinedVariable name) m

/-- Runs a part in a scope of its own. -/
def inScope (part : Eval α) : Eval α := fun m =>
  match part { m with scopes := [] :: m.scopes } with
  | .ok a m => .ok a { m with scopes := popped m.scopes }
  | .error e m => .error e { m with scopes := popped m.scopes }

/-- Runs a part one expression deeper. -/
def deeper (run : Run) (part : Eval Value) : Eval Value := fun m =>
  if run.limits.maxNesting ≤ m.evalDepth then
    .error (.nestingLimit run.limits.maxNesting) m
  else
    match part { m with evalDepth := m.evalDepth + 1 } with
    | .ok a m => .ok a { m with evalDepth := m.evalDepth - 1 }
    | .error e m => .error e { m with evalDepth := m.evalDepth - 1 }

/-- Runs a function body over scopes of its own. -/
def inCall (scopes : List Scope) (part : Eval α) : Eval α := fun m =>
  let back (m' : Machine) : Machine := ⟨m.scopes, m'.steps, m'.callDepth - 1, m.evalDepth⟩
  match part ⟨scopes, m.steps, m.callDepth + 1, 0⟩ with
  | .ok a m' => .ok a (back m')
  | .error e m' => .error e (back m')

/-- A function over all local variables of the moment. -/
def closure (run : Run) (name : String) (parameters : List String) (body : List Stmt)
    (id : FunctionId) : Eval Value := fun m =>
  run.bounded (.function name parameters body (some (flattened m.scopes)) id) m

/-- A function without a name; each evaluation makes a new one. -/
def lambda (run : Run) (parameters : List String) (body : Expr) : Eval Value := fun m =>
  run.closure lambdaName parameters [.result (some body)] (.evaluated run.serial m.steps) m

/-! ### Sequences and loops -/

/-- Runs statements one after the other, each with its index in the body. -/
def sequence (exec : List Nat → Stmt → Eval Flow) (place : List Nat) :
    Nat → Value → List Stmt → Eval Flow
  | _, last, [] => pure (.normal last)
  | i, _, s :: rest => fun m =>
    match exec (i :: place) s m with
    | .ok (.normal v) m => sequence exec place (i + 1) v rest m
    | .ok flow m => .ok flow m
    | .error e m => .error e m

/-- Runs a body as long as a condition holds, at most `turns` times. -/
def whileLoop (run : Run) (condition : Eval Value) (body : Eval Flow) : Nat → Eval Flow
  | 0 => fun m => .error (.stepLimit run.limits.maxSteps) m
  | turns + 1 => fun m =>
    match condition m with
    | .error e m => .error e m
    | .ok v m =>
      if v.truthy then
        match body m with
        | .error e m => .error e m
        | .ok .leftLoop m => .ok (.normal .null) m
        | .ok (.returned v) m => .ok (.returned v) m
        | .ok _ m => whileLoop run condition body turns m
      else .ok (.normal .null) m

/-- Runs a body once for each item. -/
def eachLoop (item : String) (body : Eval Flow) : List Value → Eval Flow
  | [] => pure (.normal .null)
  | v :: rest => fun m =>
    match body { m with scopes := Script.define item v m.scopes } with
    | .error e m => .error e m
    | .ok .leftLoop m => .ok (.normal .null) m
    | .ok (.returned v) m => .ok (.returned v) m
    | .ok _ m => eachLoop item body rest m

/-! ### Calls -/

/-- The scopes in which a function body runs, the parameters innermost. -/
def callScopes (f : Value) (name : String) (parameters : List String)
    (captured : Option Scope) (arguments : List Value) : List Scope :=
  let outer := captured.getD []
  let outer := if name = lambdaName then outer else Bindings.insert name f outer
  [Bindings.ofList (parameters.zip arguments), outer]

/-- Where the statements of a function body stand. -/
def bodyPlace : FunctionId → List Nat
  | .declared _ place => place
  | .evaluated .. => []

/-- The value a function body gives. -/
def callResult : Flow → Eval Value
  | .returned v => pure v
  | .normal _ => pure .null
  | .leftLoop => throw .breakOutsideLoop
  | .nextTurn => throw .continueOutsideLoop

/-- Calls a built-in function. -/
def callNative (run : Run) (f : Native) (arguments : List Value) : Eval Value :=
  match f.call arguments run.globals.host with
  | .ok v => run.bounded v
  | .error message => throw (.native f.name message)

/-- Calls a value; `exec` runs the statements of a function body. -/
def apply (run : Run) (exec : List Nat → Stmt → Eval Flow) (f : Value)
    (arguments : List Value) : Eval Value :=
  match f with
  | .function name parameters body captured id => fun m =>
    if arguments.length ≠ parameters.length then
      .error (.arity name parameters.length arguments.length) m
    else if run.limits.maxCallDepth ≤ m.callDepth then
      .error (.callDepth run.limits.maxCallDepth) m
    else
      let scopes := callScopes f name parameters captured arguments
      match inCall scopes (sequence exec (bodyPlace id) 0 .null body) m with
      | .ok flow m => callResult flow m
      | .error e m => .error e m
  | .native native => run.callNative native arguments
  | v => throw (.notCallable v.typeName)

/-! ### Expressions and statements -/

/-- A constant as a value. -/
def ofLiteral : Literal → Value
  | .null => .null
  | .bool b => .bool b
  | .int n => .int n
  | .float x => .float x
  | .text s => .text s

mutual

/-- Evaluates an expression. -/
def evaluate (run : Run) : Nat → Expr → Eval Value
  | 0, _ => throw (.stepLimit run.limits.maxSteps)
  | depth + 1, e => run.deeper do
    run.tick
    match e with
    | .literal l => pure (ofLiteral l)
    | .name x => run.read x
    | .binary op left right =>
      let a ← evaluate run depth left
      if op.decidedBy a then pure a
      else
        let b ← evaluate run depth right
        if op.shortCircuits then pure b else lift (Value.binary? op a b)
    | .unary op operand =>
      let v ← evaluate run depth operand
      lift (Value.unary? op v)
    | .call callee arguments =>
      let f ← evaluate run depth callee
      let vs ← arguments.mapM (evaluate run depth)
      run.apply (execute run depth) f vs
    | .index object key =>
      let o ← evaluate run depth object
      let k ← evaluate run depth key
      lift (Value.index? o k)
    | .member object key =>
      let o ← evaluate run depth object
      lift (Value.member? o key)
    | .array items =>
      let vs ← items.mapM (evaluate run depth)
      run.bounded (.array vs)
    | .object members =>
      let ms ← members.mapM fun m => do
        let v ← evaluate run depth m.2
        pure (m.1, v)
      run.bounded (.object (Bindings.ofList ms))
    | .lambda parameters body => run.lambda parameters body

/-- Runs a statement that stands at a place in the syntax tree. -/
def execute (run : Run) : Nat → List Nat → Stmt → Eval Flow
  | 0, _, _ => throw (.stepLimit run.limits.maxSteps)
  | depth + 1, place, s => do
    run.tick
    match s with
    | .expr e =>
      let v ← evaluate run depth e
      pure (.normal v)
    | .declare x value =>
      let v ← evaluate run depth (value.getD (.literal .null))
      define x v
      pure (.normal .null)
    | .assign x value =>
      let v ← evaluate run depth value
      run.assign x v
      pure (.normal .null)
    | .block body => inScope (sequence (execute run depth) place 0 .null body)
    | .branch condition body otherwise =>
      let c ← evaluate run depth condition
      if c.truthy then execute run depth (0 :: place) (.block body)
      else
        match otherwise with
        | .nothing => pure (.normal .null)
        | .block body => execute run depth (1 :: place) (.block body)
        | .branch condition body otherwise =>
          execute run depth (1 :: place) (.branch condition body otherwise)
    | .loop condition body =>
      run.whileLoop (evaluate run depth condition) (execute run depth place (.block body))
        (run.limits.maxSteps + 1)
    | .each item source body =>
      let v ← evaluate run depth source
      let items ← lift (Value.iteration? v)
      inScope (eachLoop item (execute run depth place (.block body)) items)
    | .function name parameters body =>
      let f ← run.closure name parameters body (.declared run.serial place)
      define name f
      pure (.normal .null)
    | .result none => pure (.returned .null)
    | .result (some e) =>
      let v ← evaluate run depth e
      pure (.returned v)
    | .leaveLoop => pure .leftLoop
    | .nextTurn => pure .nextTurn

end

/-- How many statements and expressions can be open inside one another. -/
def depthLimit (run : Run) : Nat := run.limits.maxSteps + 1

/-- Runs a script: its first `return` ends it, without one it gives null. -/
def script (run : Run) (code : Code) : Eval Value := fun m =>
  match sequence (run.execute run.depthLimit) [] 0 .null code m with
  | .ok (.normal _) m => .ok .null m
  | .ok (.returned v) m => .ok v m
  | .ok .leftLoop m => .error .breakOutsideLoop m
  | .ok .nextTurn m => .error .continueOutsideLoop m
  | .error e m => .error e m

/-- Evaluates a single expression. -/
def expression (run : Run) (e : Expr) : Eval Value := run.evaluate run.depthLimit e

end Run

end MockupStudio.Script
