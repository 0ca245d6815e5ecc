/-
Ints of scripts as unbounded integers.

* `Arithmetic`: expressions of int literals, a minus before an operand, and the
  operators of arithmetic; `Arithmetic.value`: what they are worth among
  unbounded integers;
* `Operation`: a single operation on unbounded integers; `Operation.Sound`: it
  does not divide by zero, and what it produces fits 64 bits;
* `Arithmetic.operations`: the operations of an expression in the order in
  which they are carried out;
* `Arithmetic.evaluate_computes`: an expression is evaluated up to its first
  operation that is not sound; `Arithmetic.evaluate_eq_int_iff`: it gives an int
  just when all are, and the int is the exact value then.
-/
import MockupStudio.Proofs.Script.Height
import MockupStudio.Proofs.Script.Promises

namespace MockupStudio.Script

/-- The operators of arithmetic. -/
inductive ArithmeticOp where
  | add | sub | mul | div | mod

namespace ArithmeticOp

/-- As an operator of scripts. -/
def binary : ArithmeticOp → BinaryOp
  | add => .add
  | sub => .sub
  | mul => .mul
  | div => .div
  | mod => .mod

/-- How it is called in errors. -/
def name : ArithmeticOp → String
  | add => "+"
  | sub => "-"
  | mul => "*"
  | div => "/"
  | mod => "%"

/-- What it gives among unbounded integers: quotients are cut toward zero, and a
remainder has the sign of the dividend. -/
def exact : ArithmeticOp → Int → Int → Int
  | add, a, b => a + b
  | sub, a, b => a - b
  | mul, a, b => a * b
  | div, a, b => a.tdiv b
  | mod, a, b => a.tmod b

end ArithmeticOp

/-! ### Operations -/

/-- An operation with its operands. -/
inductive Operation where
  | negate (a : Int)
  | binary (op : ArithmeticOp) (a b : Int)

namespace Operation

/-- What an operation gives among unbounded integers. -/
def result : Operation → Int
  | negate a => -a
  | binary op a b => op.exact a b

/-- The integers on the way to the result, and the result: a remainder comes
with its quotient. -/
def produced : Operation → List Int
  | binary .mod a b => [a.tdiv b, a.tmod b]
  | o => [o.result]

/-- Whether an operation divides by zero. -/
def ByZero : Operation → Prop
  | binary .div _ b | binary .mod _ b => b = 0
  | _ => False

instance : DecidablePred ByZero
  | binary .div _ b | binary .mod _ b => inferInstanceAs (Decidable (b = 0))
  | negate _ | binary .add .. | binary .sub .. | binary .mul .. => inferInstanceAs (Decidable False)

/-- Whether an operation can be carried out on 64 bits. -/
def Sound (o : Operation) : Prop :=
  ¬o.ByZero ∧ ∀ n ∈ o.produced, -2 ^ 63 ≤ n ∧ n < 2 ^ 63

instance (o : Operation) : Decidable o.Sound := inferInstanceAs (Decidable (_ ∧ _))

/-- The result of a sound operation fits. -/
lemma Sound.fits {o : Operation} (h : o.Sound) : -2 ^ 63 ≤ o.result ∧ o.result < 2 ^ 63 := by
  refine h.2 o.result ?_
  rcases o with _ | ⟨_ | _ | _ | _ | _, _, _⟩ <;> simp [produced, result, ArithmeticOp.exact]

/-- How an operation is called in errors. -/
def name : Operation → String
  | negate _ => "-"
  | binary op .. => op.name

/-- What is wrong with an operation that is not sound. -/
def fault (o : Operation) : RuntimeError :=
  if o.ByZero then .divisionByZero else .overflow o.name

/-- What comes of an operation on 64 bits. -/
def outcome (o : Operation) : Except RuntimeError Value :=
  if o.Sound then .ok (.int (Int64.ofInt o.result)) else .error o.fault

end Operation

lemma checkedInt_eq (name : String) (n : Int) : checkedInt name n
    = if -2 ^ 63 ≤ n ∧ n < 2 ^ 63 then .ok (.int (Int64.ofInt n)) else .error (.overflow name) :=
  if_congr fitsInt64_iff rfl rfl

namespace Operation

lemma outcome_of_byZero (o : Operation) (h : o.ByZero) : o.outcome = .error .divisionByZero := by
  rw [outcome, if_neg fun hsound : o.Sound => hsound.1 h, fault, if_pos h]

/-- Unless it divides by zero, an operation can only overflow. -/
lemma outcome_of_not_byZero (o : Operation) (h : ¬o.ByZero) : o.outcome
    = if ∀ n ∈ o.produced, -2 ^ 63 ≤ n ∧ n < 2 ^ 63 then .ok (.int (Int64.ofInt o.result))
      else .error (.overflow o.name) := by
  rw [outcome, fault, if_neg h]
  exact if_congr (and_iff_right h) rfl rfl

/-- Where nothing but the result is produced, only this has to fit. -/
lemma outcome_of_single (o : Operation) (h : ¬o.ByZero) (hproduced : o.produced = [o.result]) :
    o.outcome = checkedInt o.name o.result := by
  rw [checkedInt_eq, outcome_of_not_byZero o h, hproduced]
  exact if_congr (by rw [List.forall_mem_singleton]) rfl rfl

/-- The quotient has to fit before the remainder. -/
lemma outcome_mod (a : Int) {b : Int} (h : b ≠ 0) : (binary .mod a b).outcome
    = if Decimal.fitsInt64 (a.tdiv b) then checkedInt "%" (a.tmod b)
      else .error (.overflow "%") := by
  rw [outcome_of_not_byZero (binary .mod a b) h, checkedInt_eq]
  by_cases hquotient : Decimal.fitsInt64 (a.tdiv b)
  · rw [if_pos hquotient]
    refine if_congr ?_ rfl rfl
    rw [produced, List.forall_mem_cons, List.forall_mem_singleton, ← fitsInt64_iff,
      and_iff_right hquotient]
  · rw [if_neg hquotient,
      if_neg fun hall => hquotient (fitsInt64_iff.mpr (hall _ List.mem_cons_self))]
    rfl

/-- The remainder would be zero, but the quotient overflows. -/
example : (binary .mod (-2 ^ 63) (-1)).result = 0
    ∧ ¬(binary .mod (-2 ^ 63) (-1)).Sound := by
  decide

end Operation

/-- Minus before an int. -/
lemma Value.unary?_int (a : Int64) :
    Value.unary? .neg (.int a) = (Operation.negate a.toInt).outcome :=
  (Operation.outcome_of_single (.negate a.toInt) id rfl).symm

/-- An operator between ints. -/
lemma Value.binary?_int (op : ArithmeticOp) (a b : Int64) :
    Value.binary? op.binary (.int a) (.int b) = (Operation.binary op a.toInt b.toInt).outcome := by
  cases op with
  | add => exact (Operation.outcome_of_single (.binary .add a.toInt b.toInt) id rfl).symm
  | sub => exact (Operation.outcome_of_single (.binary .sub a.toInt b.toInt) id rfl).symm
  | mul => exact (Operation.outcome_of_single (.binary .mul a.toInt b.toInt) id rfl).symm
  | div =>
    by_cases hzero : b.toInt = 0
    · rw [Operation.outcome_of_byZero (.binary .div a.toInt b.toInt) hzero]
      exact if_pos hzero
    · rw [Operation.outcome_of_single (.binary .div a.toInt b.toInt) hzero rfl]
      exact if_neg hzero
  | mod =>
    by_cases hzero : b.toInt = 0
    · rw [Operation.outcome_of_byZero (.binary .mod a.toInt b.toInt) hzero]
      exact if_pos hzero
    · rw [Operation.outcome_mod a.toInt hzero]
      exact if_neg hzero

/-! ### Expressions -/

/-- Expressions of int literals and arithmetic. -/
inductive Arithmetic where
  | literal (n : Int64)
  | negate (operand : Arithmetic)
  | binary (op : ArithmeticOp) (left right : Arithmetic)

namespace Arithmetic

/-- As an expression of scripts. -/
def expr : Arithmetic → Expr
  | literal n => .literal (.int n)
  | negate operand => .unary .neg operand.expr
  | binary op left right => .binary op.binary left.expr right.expr

/-- The number of its nodes. -/
def size : Arithmetic → Nat
  | literal _ => 1
  | negate operand => operand.size + 1
  | binary _ left right => left.size + right.size + 1

/-- What it is worth among unbounded integers. -/
def value : Arithmetic → Int
  | literal n => n.toInt
  | negate operand => (Operation.negate operand.value).result
  | binary op left right => (Operation.binary op left.value right.value).result

/-- Its operations in the order in which they are carried out, from the left to
the right and each one after its operands. -/
def operations : Arithmetic → List Operation
  | literal _ => []
  | negate operand => operand.operations ++ [.negate operand.value]
  | binary op left right =>
    left.operations ++ right.operations ++ [.binary op left.value right.value]

/-- What may come of evaluating an expression: the exact value if all operations
are sound, or else the error of the first one that is not. -/
inductive Computes (e : Arithmetic) (m : Machine) : EStateM.Result RuntimeError Machine Value → Prop
  | value {n : Int64} : (∀ o ∈ e.operations, o.Sound) → n.toInt = e.value →
      Computes e m (.ok (.int n) { m with steps := m.steps + e.size })
  | fault {before after : List Operation} {o : Operation} {steps : Nat} :
      e.operations = before ++ o :: after → (∀ o ∈ before, o.Sound) → ¬o.Sound →
        steps ≤ m.steps + e.size → Computes e m (.error o.fault { m with steps })

section Evaluation

variable {run : Run} {depth : Nat} {m : Machine} {e : Arithmetic}

/-- A result once the expression that gives it is no longer open. -/
def surfaced : EStateM.Result RuntimeError Machine Value → EStateM.Result RuntimeError Machine Value
  | .ok v m => .ok v { m with evalDepth := m.evalDepth - 1 }
  | .error e m => .error e { m with evalDepth := m.evalDepth - 1 }

/-- The machine once an expression has begun. -/
def begun (m : Machine) : Machine := { m with evalDepth := m.evalDepth + 1, steps := m.steps + 1 }

lemma counts_begun (m : Machine) :
    (begun m).evalDepth = m.evalDepth + 1 ∧ (begun m).steps = m.steps + 1 := ⟨rfl, rfl⟩

/-- Within the limits, an expression begins. -/
lemma deeper_tick (part : Eval Value) (hnesting : m.evalDepth < run.limits.maxNesting)
    (hsteps : m.steps < run.limits.maxSteps) :
    run.deeper (run.tick >>= fun _ => part) m = surfaced (part (begun m)) := by
  have htick : run.tick { m with evalDepth := m.evalDepth + 1 } = .ok () (begun m) :=
    if_neg (Nat.not_lt.mpr hsteps)
  rw [Run.deeper, if_neg (Nat.not_le.mpr hnesting)]
  simp only [bind, EStateM.bind, htick]
  cases part (begun m) <;> rfl

/-- The last operation of an expression, the others being sound. -/
lemma Computes.last {o : Operation} {earlier : List Operation} {steps : Nat}
    (hoperations : e.operations = earlier ++ [o]) (hearlier : ∀ o ∈ earlier, o.Sound)
    (hvalue : o.result = e.value) (hsteps : steps = m.steps + e.size) :
    e.Computes m (surfaced (Run.lift o.outcome { begun m with steps })) := by
  subst hsteps
  rw [Operation.outcome]
  split
  · next hsound =>
    obtain ⟨hleast, hmost⟩ := hsound.fits
    refine .value ?_ ((Int64.toInt_ofInt_of_le hleast hmost).trans hvalue)
    rw [hoperations, List.forall_mem_append, List.forall_mem_singleton]
    exact ⟨hearlier, hsound⟩
  · next hunsound => exact .fault hoperations hearlier hunsound (Nat.le_refl _)

/-- An operation that is not sound ends the expression that it is part of. -/
lemma Computes.stopped {o : Operation} {part before after : List Operation} {steps : Nat}
    (earlier later : List Operation) (hoperations : e.operations = earlier ++ part ++ later)
    (hearlier : ∀ o ∈ earlier, o.Sound) (hpart : part = before ++ o :: after)
    (hbefore : ∀ o ∈ before, o.Sound) (ho : ¬o.Sound) (hsteps : steps ≤ m.steps + e.size) :
    e.Computes m (surfaced (.error o.fault { begun m with steps })) := by
  have hsplit : e.operations = (earlier ++ before) ++ o :: (after ++ later) := by
    rw [hoperations, hpart]
    simp
  exact .fault hsplit (List.forall_mem_append.mpr ⟨hearlier, hbefore⟩) ho hsteps

/-- A minus before what an operand gives. -/
lemma Computes.negate {operand : Arithmetic} {part : Eval Value}
    (h : operand.Computes (begun m) (part (begun m))) : (Arithmetic.negate operand).Computes m
      (surfaced ((part >>= fun v => Run.lift (Value.unary? .neg v)) (begun m))) := by
  have hbegun := counts_begun m
  simp only [bind, EStateM.bind]
  generalize part (begun m) = r at h
  cases h with
  | value hsound hvalue =>
    dsimp only
    rw [Value.unary?_int, hvalue]
    exact .last rfl hsound rfl (by rw [size]; omega)
  | fault hoperations hbefore ho hreached =>
    exact .stopped [] [.negate operand.value] rfl (List.forall_mem_nil _) hoperations hbefore ho
      (by rw [size]; omega)

/-- An operator between what two operands give, of which the right one begins
where the left one has ended. -/
lemma Computes.binary {op : ArithmeticOp} {left right : Arithmetic} {part part' : Eval Value}
    (hleft : left.Computes (begun m) (part (begun m)))
    (hright : ∀ middle : Machine,
      middle = { begun m with steps := (begun m).steps + left.size } →
        right.Computes middle (part' middle)) :
    (Arithmetic.binary op left right).Computes m (surfaced ((part >>= fun a => part' >>= fun b =>
      Run.lift (Value.binary? op.binary a b)) (begun m))) := by
  have hbegun := counts_begun m
  simp only [bind, EStateM.bind]
  generalize part (begun m) = r at hleft
  cases hleft with
  | fault hoperations hbefore ho hreached =>
    exact .stopped [] (right.operations ++ [.binary op left.value right.value])
      (List.append_assoc _ _ _) (List.forall_mem_nil _) hoperations hbefore ho
      (by rw [size]; omega)
  | value hsound hvalue =>
    have hright := hright _ rfl
    dsimp only
    generalize part' _ = r at hright
    cases hright with
    | fault hoperations hbefore ho hreached =>
      dsimp only at hreached
      exact .stopped left.operations [.binary op left.value right.value] rfl hsound hoperations
        hbefore ho (by rw [size]; omega)
    | value hsound' hvalue' =>
      dsimp only
      rw [Value.binary?_int, hvalue, hvalue']
      exact .last rfl (List.forall_mem_append.mpr ⟨hsound, hsound'⟩) rfl (by rw [size]; omega)

/-- An operator of arithmetic evaluates both operands, the left one first. -/
lemma evaluate_binary (op : ArithmeticOp) (left right : Expr)
    (hnesting : m.evalDepth < run.limits.maxNesting) (hsteps : m.steps < run.limits.maxSteps) :
    run.evaluate (depth + 1) (.binary op.binary left right) m
      = surfaced ((run.evaluate depth left >>= fun a => run.evaluate depth right >>= fun b =>
          Run.lift (Value.binary? op.binary a b)) (begun m)) := by
  rw [Run.evaluate.eq_def, ← deeper_tick _ hnesting hsteps]
  cases op <;> rfl

/-- Every expression takes a level. -/
lemma exists_depth_eq_succ (e : Arithmetic) (h : e.expr.height ≤ depth) :
    ∃ levels, depth = levels + 1 := by
  refine Nat.exists_eq_succ_of_ne_zero ?_
  rintro rfl
  cases e <;> simp [expr, Expr.height] at h

/-- Within the limits, an expression is evaluated up to its first operation that
is not sound. -/
theorem evaluate_computes (e : Arithmetic) (hdepth : e.expr.height ≤ depth)
    (hnesting : m.evalDepth + e.expr.height ≤ run.limits.maxNesting)
    (hsteps : m.steps + e.size ≤ run.limits.maxSteps) :
    e.Computes m (run.evaluate depth e.expr m) := by
  induction e generalizing depth m with
  | literal n =>
    obtain ⟨depth, rfl⟩ := exists_depth_eq_succ _ hdepth
    rw [expr, Run.evaluate.eq_def]
    dsimp only
    rw [deeper_tick _ hnesting hsteps]
    exact .value (List.forall_mem_nil _) rfl
  | negate operand ih =>
    obtain ⟨depth, rfl⟩ := exists_depth_eq_succ _ hdepth
    rw [expr, Expr.height] at hdepth hnesting
    rw [size] at hsteps
    have hbegun := counts_begun m
    rw [expr, Run.evaluate.eq_def]
    dsimp only
    rw [deeper_tick _ (by omega) (by omega)]
    exact .negate (ih (by omega) (by omega) (by omega))
  | binary op left right ihleft ihright =>
    obtain ⟨depth, rfl⟩ := exists_depth_eq_succ _ hdepth
    rw [expr, Expr.height] at hdepth hnesting
    rw [size] at hsteps
    have hbegun := counts_begun m
    rw [expr, evaluate_binary op _ _ (by omega) (by omega)]
    refine .binary (ihleft (by omega) (by omega) (by omega)) ?_
    rintro middle rfl
    exact ihright (by omega) (by dsimp only; omega) (by dsimp only; omega)

lemma height_le_size (e : Arithmetic) : e.expr.height ≤ e.size := by
  induction e <;> simp only [expr, Expr.height, size] <;> omega

/-- What is within the limit of steps is within the depth that a run begins
with. -/
lemma height_le_depthLimit (hsteps : m.steps + e.size ≤ run.limits.maxSteps) :
    e.expr.height ≤ run.depthLimit := by
  have hheight := e.height_le_size
  rw [Run.depthLimit]
  omega

/-- Within the limits, an expression gives an int just when all its operations
are sound, and the int is the exact value then; if they are not, it ends with
the error of the first one that is not. -/
theorem evaluate_eq_int_iff (e : Arithmetic) (hdepth : e.expr.height ≤ depth)
    (hnesting : m.evalDepth + e.expr.height ≤ run.limits.maxNesting)
    (hsteps : m.steps + e.size ≤ run.limits.maxSteps) :
    (∀ n : Int64, (∃ m', run.evaluate depth e.expr m = .ok (.int n) m')
        ↔ (∀ o ∈ e.operations, o.Sound) ∧ n.toInt = e.value)
      ∧ ((∀ o ∈ e.operations, o.Sound) → ∃ n : Int64, n.toInt = e.value)
      ∧ ((¬∀ o ∈ e.operations, o.Sound) → ∃ before o after m',
        e.operations = before ++ o :: after ∧ (∀ o' ∈ before, o'.Sound) ∧ ¬o.Sound
          ∧ run.evaluate depth e.expr m = .error o.fault m') := by
  have hcomputes := evaluate_computes e hdepth hnesting hsteps
  generalize run.evaluate depth e.expr m = r at hcomputes
  cases hcomputes with
  | value hsound hvalue =>
    refine ⟨fun n' => ⟨?_, ?_⟩, fun _ => ⟨_, hvalue⟩, fun hunsound => absurd hsound hunsound⟩
    · rintro ⟨m', h⟩
      cases h
      exact ⟨hsound, hvalue⟩
    · rintro ⟨-, h⟩
      exact ⟨_, by rw [Int64.toInt_inj.mp (hvalue.trans h.symm)]⟩
  | @fault before after o steps hoperations hbefore ho =>
    have hunsound : ¬∀ o ∈ e.operations, o.Sound := fun hall =>
      ho (hall o (hoperations ▸ List.mem_append_right before List.mem_cons_self))
    refine ⟨fun n => ⟨?_, fun h => absurd h.1 hunsound⟩, fun h => absurd h hunsound, fun _ =>
      ⟨before, o, after, _, hoperations, hbefore, ho, rfl⟩⟩
    rintro ⟨m', h⟩
    cases h

end Evaluation

/-- `-7 % 3 + 10 / -4`, with the signs of truncation. -/
def signs : Arithmetic :=
  .binary .add (.binary .mod (.negate (.literal 7)) (.literal 3))
    (.binary .div (.literal 10) (.negate (.literal 4)))

theorem evaluate_signs : ∃ m,
    Run.expression ⟨{}, .none, 0⟩ signs.expr Machine.start = .ok (.int (-3)) m :=
  have hsteps : Machine.start.steps + signs.size ≤ ({} : Limits).maxSteps := by decide
  ((signs.evaluate_eq_int_iff (height_le_depthLimit hsteps) (by decide) hsteps).1 (-3)).mpr
    ⟨by decide, by decide⟩

end Arithmetic

end MockupStudio.Script
