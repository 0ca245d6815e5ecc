/-
Syntax trees of scripts.

* `Expr`: expressions, `Stmt`: statements, `Code`: a list of statements;
  the bodies of `if`, `while`, `for` and `fn` are lists of statements, and
  what follows an `else` is a block or another `if` (`Otherwise`), so every
  tree is one that can be written;
* `BinaryOp.ofSymbol?`, `UnaryOp.ofSymbol?`: the operator that a symbol
  stands for;
* `BinaryOp.precedence`: how tightly an operator binds, from 1 for `||` up
  to 6 for the multiplicative ones.
-/
import MockupStudio.Script.Token

namespace MockupStudio.Script

/-- Operators between two expressions. -/
inductive BinaryOp where
  | add | sub | mul | div | mod
  | eq | ne | lt | le | gt | ge
  | and | or
  deriving Repr, DecidableEq, Inhabited

/-- Operators before an expression. -/
inductive UnaryOp where
  | neg | not
  deriving Repr, DecidableEq, Inhabited

/-- Expressions. -/
inductive Expr where
  | literal (value : Literal)
  | name (text : String)
  | binary (op : BinaryOp) (left right : Expr)
  | unary (op : UnaryOp) (operand : Expr)
  | call (callee : Expr) (arguments : List Expr)
  | index (object key : Expr)
  | member (object : Expr) (key : String)
  | array (items : List Expr)
  /-- Members in the order written; of a repeated key the last one counts. -/
  | object (members : List (String × Expr))
  | lambda (parameters : List String) (body : Expr)
  deriving Inhabited

mutual

/-- Statements. -/
inductive Stmt where
  | expr (value : Expr)
  /-- A new variable, null if no value is written. -/
  | declare (name : String) (value : Option Expr)
  /-- An assignment; only plain names can be assigned. -/
  | assign (name : String) (value : Expr)
  | block (body : List Stmt)
  | branch (condition : Expr) (body : List Stmt) (otherwise : Otherwise)
  | loop (condition : Expr) (body : List Stmt)
  /-- A loop over the items of an array, the keys of an object or the
  characters of a text. -/
  | each (item : String) (source : Expr) (body : List Stmt)
  | function (name : String) (parameters : List String) (body : List Stmt)
  | result (value : Option Expr)
  | leaveLoop
  | nextTurn

/-- What is done when a condition fails. -/
inductive Otherwise where
  | nothing
  | block (body : List Stmt)
  | branch (condition : Expr) (body : List Stmt) (otherwise : Otherwise)

end

instance : Inhabited Stmt := ⟨.leaveLoop⟩
instance : Inhabited Otherwise := ⟨.nothing⟩

/-- A script is the body of a function. -/
abbrev Code := List Stmt

/-- The operator between two expressions that a symbol stands for. -/
def BinaryOp.ofSymbol? : Symbol → Option BinaryOp
  | .plus => some add
  | .minus => some sub
  | .star => some mul
  | .slash => some div
  | .percent => some mod
  | .equal => some eq
  | .unequal => some ne
  | .less => some lt
  | .lessEqual => some le
  | .greater => some gt
  | .greaterEqual => some ge
  | .both => some and
  | .either => some or
  | _ => none

/-- How tightly an operator binds its operands. -/
def BinaryOp.precedence : BinaryOp → Nat
  | or => 1
  | and => 2
  | eq | ne => 3
  | lt | le | gt | ge => 4
  | add | sub => 5
  | mul | div | mod => 6

/-- Whether an operator yields one of its operands and may skip the right one. -/
def BinaryOp.shortCircuits : BinaryOp → Bool
  | and | or => true
  | _ => false

/-- The operator before an expression that a symbol stands for. -/
def UnaryOp.ofSymbol? : Symbol → Option UnaryOp
  | .minus => some neg
  | .bang => some not
  | _ => none

end MockupStudio.Script
