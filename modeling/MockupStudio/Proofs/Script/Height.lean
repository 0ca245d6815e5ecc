/-
The height of syntax trees.

* `Expr.height`, `Stmt.height`, `Code.height`: the number of nodes on a
  longest path from the root to a leaf. Expressions and statements are nodes;
  the braces around the body of an `if`, an `else` or a loop are none, nor is
  the null of a variable that is declared without a value;
* `Expr.tallest`, `Expr.tallestMember`: the greatest height in a list.
-/
import MockupStudio.Script.Syntax

namespace MockupStudio.Script

mutual

/-- The number of nodes on a longest path through an expression. -/
def Expr.height : Expr → Nat
  | .literal _ | .name _ => 1
  | .binary _ left right => 1 + max left.height right.height
  | .unary _ operand => 1 + operand.height
  | .call callee arguments => 1 + max callee.height (Expr.tallest arguments)
  | .index base key => 1 + max base.height key.height
  | .member base _ => 1 + base.height
  | .array items => 1 + Expr.tallest items
  | .object members => 1 + Expr.tallestMember members
  | .lambda _ body => 1 + body.height

/-- The greatest height among expressions. -/
def Expr.tallest : List Expr → Nat
  | [] => 0
  | e :: es => max e.height (Expr.tallest es)

/-- The greatest height among the values of members. -/
def Expr.tallestMember : List (String × Expr) → Nat
  | [] => 0
  | (_, e) :: ms => max e.height (Expr.tallestMember ms)

end

mutual

/-- The number of nodes on a longest path through a statement. -/
def Stmt.height : Stmt → Nat
  | .expr value | .assign _ value => 1 + value.height
  | .declare _ value | .result value => 1 + value.elim 0 Expr.height
  | .block body | .function _ _ body => 1 + Code.height body
  | .branch condition body otherwise =>
    1 + max condition.height (max (Code.height body) otherwise.height)
  | .loop condition body => 1 + max condition.height (Code.height body)
  | .each _ source body => 1 + max source.height (Code.height body)
  | .leaveLoop | .nextTurn => 1

/-- The number of nodes on a longest path through what an `else` leads to. -/
def Otherwise.height : Otherwise → Nat
  | .nothing => 0
  | .block body => Code.height body
  | .branch condition body otherwise =>
    1 + max condition.height (max (Code.height body) otherwise.height)

/-- The number of nodes on a longest path through a list of statements. -/
def Code.height : Code → Nat
  | [] => 0
  | s :: rest => max s.height (Code.height rest)

end

end MockupStudio.Script
