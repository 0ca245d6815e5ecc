/-
What operators complain about.

* `Complains`: an outcome that is no error about a limit;
* `complains_binary`, `complains_unary`, `complains_index`,
  `complains_member`, `complains_iteration`: operators complain about their
  operands, never about a limit of the run.
-/
import MockupStudio.Proofs.Script.LargerLimits
import MockupStudio.Script.Operators

namespace MockupStudio.Script

/-- An outcome that is no error about a limit. -/
def Complains (r : Except RuntimeError α) : Prop := ∀ e, r = .error e → e.isLimit = false

lemma Complains.ok (a : α) : Complains (.ok a) := fun _ h => by cases h

lemma Complains.error {e : RuntimeError} (h : e.isLimit = false) :
    Complains (.error e : Except RuntimeError α) := fun _ he => by cases he; exact h

lemma Complains.ite {p : Prop} [Decidable p] {r r' : Except RuntimeError α} (h : Complains r)
    (h' : Complains r') : Complains (if p then r else r') := by
  split
  · exact h
  · exact h'

section Operators

variable (a b : Value) (s t : String) (n : Int64)

lemma complains_checkedInt (operator : String) (n : Int) : Complains (checkedInt operator n) :=
  .ite (.ok _) (.error rfl)

lemma complains_floatOp (verb : String) (op : Float → Float → Float) :
    Complains (Value.floatOp verb op a b) := by
  refine .ite ?_ (.error rfl)
  split
  · exact .ok _
  · exact .error rfl

lemma complains_joinTexts : Complains (Value.joinTexts s t) := .ite (.error rfl) (.ok _)

lemma complains_repeat : Complains (Value.repeat? s n) :=
  .ite (.error rfl) (.ite (.error rfl) (.ok _))

lemma complains_compare (test : Ordering → Bool) : Complains (Value.compare? test a b) := by
  rw [Value.compare?.eq_def]
  split
  · exact .ok _
  · exact .ok _
  · refine .ite ?_ (.error rfl)
    split <;> exact .ok _

lemma complains_add : Complains (Value.add? a b) := by
  rw [Value.add?.eq_def]
  split
  · exact complains_checkedInt _ _
  · exact .ite (.error rfl) (.ok _)
  · exact .ite (complains_floatOp _ _ _ _) (complains_joinTexts _ _)
  · exact .ite (complains_floatOp _ _ _ _) (complains_joinTexts _ _)
  · exact complains_floatOp _ _ _ _

lemma complains_sub : Complains (Value.sub? a b) := by
  rw [Value.sub?.eq_def]
  split
  · exact complains_checkedInt _ _
  · exact complains_floatOp _ _ _ _

lemma complains_mul : Complains (Value.mul? a b) := by
  rw [Value.mul?.eq_def]
  split
  · exact complains_checkedInt _ _
  · exact complains_repeat _ _
  · exact complains_repeat _ _
  · exact complains_floatOp _ _ _ _

lemma complains_div : Complains (Value.div? a b) := by
  rw [Value.div?.eq_def]
  split
  · exact .ite (.error rfl) (complains_checkedInt _ _)
  · exact .ite (.error rfl) (complains_floatOp _ _ _ _)

lemma complains_mod : Complains (Value.mod? a b) := by
  rw [Value.mod?.eq_def]
  split
  · exact .ite (.error rfl) (.ite (complains_checkedInt _ _) (.error rfl))
  · exact .ite (.error rfl) (complains_floatOp _ _ _ _)

theorem complains_binary (op : BinaryOp) : Complains (Value.binary? op a b) := by
  cases op with
  | add => exact complains_add a b
  | sub => exact complains_sub a b
  | mul => exact complains_mul a b
  | div => exact complains_div a b
  | mod => exact complains_mod a b
  | eq | ne | and | or => exact .ok _
  | lt | le | gt | ge => exact complains_compare a b _

theorem complains_unary (op : UnaryOp) : Complains (Value.unary? op a) := by
  cases op with
  | not => exact .ok _
  | neg =>
    cases a with
    | int n => exact complains_checkedInt _ _
    | float => exact .ok _
    | _ => exact .error rfl

theorem complains_index (key : Value) : Complains (Value.index? a key) := by
  have hitem (items : List Value) (i : Int) : Complains (Value.item? items i) := by
    rw [Value.item?]
    split
    · exact .ok _
    · exact .error rfl
  have hchar (cs : List Char) (i : Int) : Complains (Value.charAt? cs i) := by
    rw [Value.charAt?]
    split
    · exact .ok _
    · exact .error rfl
  rw [Value.index?.eq_def]
  split
  · split
    · exact hitem _ _
    · exact .error rfl
  · split
    · exact hchar _ _
    · exact .error rfl
  · split
    · exact .ok _
    · exact .ok _
    · exact .error rfl
  · exact .error rfl

theorem complains_member (key : String) : Complains (Value.member? a key) := by
  cases a with
  | object => exact .ok _
  | array => exact .ite (.ok _) (.error rfl)
  | text => exact .ite (.ok _) (.error rfl)
  | _ => exact .error rfl

theorem complains_iteration : Complains (Value.iteration? a) := by
  cases a with
  | array | text | object => exact .ok _
  | _ => exact .error rfl

end Operators

end MockupStudio.Script
