/-
The expressions that a script is made of.

* `Expr.parts`, `Stmt.parts`, `Code.parts`: all expressions that occur in a piece
  of code, however deep, the bodies of its functions included;
* `Expr.Every`, `Stmt.Every`, `Code.Every`: a condition on all of them;
  `every_binary`, `every_loop` and so on take it apart;
* `Code.longestText`, `Code.longestArray`: the longest text that a script writes
  down, as a literal or as a key, and its longest array.
-/
import MockupStudio.Script.Syntax
import Mathlib

namespace MockupStudio.Script

/-! ### Occurring expressions -/

mutual

/-- The expressions that occur in an expression, itself first. -/
def Expr.parts : Expr → List Expr
  | .literal l => [.literal l]
  | .name x => [.name x]
  | .binary op left right => .binary op left right :: (left.parts ++ right.parts)
  | .unary op operand => .unary op operand :: operand.parts
  | .call callee arguments => .call callee arguments :: (callee.parts ++ Expr.allParts arguments)
  | .index base key => .index base key :: (base.parts ++ key.parts)
  | .member base key => .member base key :: base.parts
  | .array items => .array items :: Expr.allParts items
  | .object members => .object members :: Expr.memberParts members
  | .lambda parameters body => .lambda parameters body :: body.parts

/-- The expressions that occur in one of several expressions. -/
def Expr.allParts : List Expr → List Expr
  | [] => []
  | e :: es => e.parts ++ Expr.allParts es

/-- The expressions that occur in the values of members. -/
def Expr.memberParts : List (String × Expr) → List Expr
  | [] => []
  | (_, e) :: members => e.parts ++ Expr.memberParts members

end

mutual

/-- The expressions that occur in a statement. -/
def Stmt.parts : Stmt → List Expr
  | .expr value | .assign _ value => value.parts
  | .declare _ value => (value.getD (.literal .null)).parts
  | .result value => value.elim [] Expr.parts
  | .block body | .function _ _ body => Code.parts body
  | .branch condition body otherwise => condition.parts ++ Code.parts body ++ otherwise.parts
  | .loop condition body => condition.parts ++ Code.parts body
  | .each _ source body => source.parts ++ Code.parts body
  | .leaveLoop | .nextTurn => []

/-- The expressions that occur in what is done when a condition fails. -/
def Otherwise.parts : Otherwise → List Expr
  | .nothing => []
  | .block body => Code.parts body
  | .branch condition body otherwise => condition.parts ++ Code.parts body ++ otherwise.parts

/-- The expressions that occur in a list of statements. -/
def Code.parts : Code → List Expr
  | [] => []
  | s :: rest => s.parts ++ Code.parts rest

end

/-! ### A condition on all of them -/

/-- A condition on every expression that occurs in an expression. -/
def Expr.Every (C : Expr → Prop) (e : Expr) : Prop := ∀ part ∈ e.parts, C part

/-- A condition on every expression that occurs in a statement. -/
def Stmt.Every (C : Expr → Prop) (s : Stmt) : Prop := ∀ part ∈ s.parts, C part

/-- A condition on every expression that occurs after a failed condition. -/
def Otherwise.Every (C : Expr → Prop) (o : Otherwise) : Prop := ∀ part ∈ o.parts, C part

/-- A condition on every expression that occurs in a list of statements. -/
def Code.Every (C : Expr → Prop) (code : Code) : Prop := ∀ part ∈ Code.parts code, C part

section Every

variable {C : Expr → Prop}

lemma forall_mem_allParts {es : List Expr} :
    (∀ part ∈ Expr.allParts es, C part) ↔ ∀ e ∈ es, e.Every C := by
  induction es with
  | nil => exact iff_of_true (List.forall_mem_nil C) (List.forall_mem_nil _)
  | cons e es ih =>
    rw [List.forall_mem_cons, ← ih]
    exact List.forall_mem_append

lemma forall_mem_memberParts {members : List (String × Expr)} :
    (∀ part ∈ Expr.memberParts members, C part) ↔ ∀ member ∈ members, member.2.Every C := by
  induction members with
  | nil => exact iff_of_true (List.forall_mem_nil C) (List.forall_mem_nil _)
  | cons member members ih =>
    rw [List.forall_mem_cons, ← ih]
    exact List.forall_mem_append

@[simp] lemma every_literal {l : Literal} : (Expr.literal l).Every C ↔ C (.literal l) :=
  List.forall_mem_singleton

@[simp] lemma every_binary {op : BinaryOp} {left right : Expr} :
    (Expr.binary op left right).Every C
      ↔ C (.binary op left right) ∧ left.Every C ∧ right.Every C :=
  List.forall_mem_cons.trans (and_congr_right fun _ => List.forall_mem_append)

@[simp] lemma every_unary {op : UnaryOp} {operand : Expr} :
    (Expr.unary op operand).Every C ↔ C (.unary op operand) ∧ operand.Every C :=
  List.forall_mem_cons

@[simp] lemma every_call {callee : Expr} {arguments : List Expr} :
    (Expr.call callee arguments).Every C
      ↔ C (.call callee arguments) ∧ callee.Every C ∧ ∀ e ∈ arguments, e.Every C :=
  List.forall_mem_cons.trans (and_congr_right fun _ =>
    List.forall_mem_append.trans (and_congr_right fun _ => forall_mem_allParts))

@[simp] lemma every_index {base key : Expr} : (Expr.index base key).Every C
    ↔ C (.index base key) ∧ base.Every C ∧ key.Every C :=
  List.forall_mem_cons.trans (and_congr_right fun _ => List.forall_mem_append)

@[simp] lemma every_member {base : Expr} {key : String} :
    (Expr.member base key).Every C ↔ C (.member base key) ∧ base.Every C :=
  List.forall_mem_cons

@[simp] lemma every_array {items : List Expr} :
    (Expr.array items).Every C ↔ C (.array items) ∧ ∀ e ∈ items, e.Every C :=
  List.forall_mem_cons.trans (and_congr_right fun _ => forall_mem_allParts)

@[simp] lemma every_object {members : List (String × Expr)} : (Expr.object members).Every C
    ↔ C (.object members) ∧ ∀ member ∈ members, member.2.Every C :=
  List.forall_mem_cons.trans (and_congr_right fun _ => forall_mem_memberParts)

@[simp] lemma every_lambda {parameters : List String} {body : Expr} :
    (Expr.lambda parameters body).Every C ↔ C (.lambda parameters body) ∧ body.Every C :=
  List.forall_mem_cons

@[simp] lemma every_nil : Code.Every C [] := fun _ h => (List.not_mem_nil h).elim

@[simp] lemma every_cons {s : Stmt} {rest : Code} :
    Code.Every C (s :: rest) ↔ s.Every C ∧ Code.Every C rest := List.forall_mem_append

@[simp] lemma every_expr {e : Expr} : (Stmt.expr e).Every C ↔ e.Every C := Iff.rfl

@[simp] lemma every_assign {x : String} {e : Expr} : (Stmt.assign x e).Every C ↔ e.Every C :=
  Iff.rfl

@[simp] lemma every_declare {x : String} {value : Option Expr} :
    (Stmt.declare x value).Every C ↔ (value.getD (.literal .null)).Every C := Iff.rfl

@[simp] lemma every_result {e : Expr} : (Stmt.result (some e)).Every C ↔ e.Every C := Iff.rfl

@[simp] lemma every_block {body : Code} : (Stmt.block body).Every C ↔ Code.Every C body := Iff.rfl

@[simp] lemma every_function {name : String} {parameters : List String} {body : Code} :
    (Stmt.function name parameters body).Every C ↔ Code.Every C body := Iff.rfl

@[simp] lemma every_branch {condition : Expr} {body : Code} {otherwise : Otherwise} :
    (Stmt.branch condition body otherwise).Every C
      ↔ condition.Every C ∧ Code.Every C body ∧ otherwise.Every C :=
  List.forall_mem_append.trans ((and_congr_left fun _ => List.forall_mem_append).trans and_assoc)

@[simp] lemma every_loop {condition : Expr} {body : Code} :
    (Stmt.loop condition body).Every C ↔ condition.Every C ∧ Code.Every C body :=
  List.forall_mem_append

@[simp] lemma every_each {item : String} {source : Expr} {body : Code} :
    (Stmt.each item source body).Every C ↔ source.Every C ∧ Code.Every C body :=
  List.forall_mem_append

@[simp] lemma every_elseBlock {body : Code} :
    (Otherwise.block body).Every C ↔ Code.Every C body := Iff.rfl

end Every

/-! ### Sizes of what a script writes down -/

/-- The greatest of some sizes, zero without any. -/
def greatest (sizes : List Nat) : Nat := sizes.foldr max 0

lemma le_greatest {sizes : List Nat} {size : Nat} (h : size ∈ sizes) : size ≤ greatest sizes :=
  List.le_max_of_le h (Nat.le_refl size)

namespace Expr

/-- The length in bytes of the longest text that an expression itself writes
down, as a literal or as a key. -/
def textBytes : Expr → Nat
  | .literal (.text s) => s.utf8ByteSize
  | .object members => greatest (members.map fun member => member.1.utf8ByteSize)
  | _ => 0

/-- The number of items that an expression itself writes down. -/
def arrayItems : Expr → Nat
  | .array items => items.length
  | _ => 0

end Expr

/-- The length in bytes of the longest text that a script writes down. -/
def Code.longestText (code : Code) : Nat := greatest ((Code.parts code).map Expr.textBytes)

/-- The length of the longest array that a script writes down. -/
def Code.longestArray (code : Code) : Nat := greatest ((Code.parts code).map Expr.arrayItems)

/-- What a script writes down is no longer than that. -/
theorem Code.every_le_longest (code : Code) : Code.Every
    (fun e => e.textBytes ≤ Code.longestText code ∧ e.arrayItems ≤ Code.longestArray code) code :=
  fun _ hpart => ⟨le_greatest (List.mem_map_of_mem hpart), le_greatest (List.mem_map_of_mem hpart)⟩

end MockupStudio.Script
