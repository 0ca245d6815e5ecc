/-
Tokens and syntax trees laid open as plain data, for tools that look at them.

* `Inspect.token`: kind, content, line and column;
* `Inspect.expr`, `Inspect.stmt`: a list of the form of a node and its parts.
-/
import MockupStudio.Inspect.Value

namespace MockupStudio.Inspect

open Script

/-- A constant. -/
def literal : Literal → Json
  | .null => .null
  | .bool b => .bool b
  | .int n => .int n.toInt
  | .float x => float x
  | .text s => .text s

/-- The kind of a token and its content. -/
def tokenKind : Token.Kind → String × Json
  | .literal .null => ("Null", .null)
  | .literal (.bool b) => ("Bool", .bool b)
  | .literal (.int n) => ("Int", .int n.toInt)
  | .literal (.float x) => ("Float", float x)
  | .literal (.text s) => ("String", .text s)
  | .name s => ("Ident", .text s)
  | .keyword k => (k.shown, .null)
  | .symbol m => (m.shown, .null)
  | .endOfText => ("Eof", .null)

/-- A token. -/
def token (t : Token) : Json :=
  .array [.text (tokenKind t.kind).1, (tokenKind t.kind).2, .int t.position.line,
    .int t.position.column]

/-- The name of an operator. -/
def binaryOp : BinaryOp → String
  | .add => "Add"
  | .sub => "Sub"
  | .mul => "Mul"
  | .div => "Div"
  | .mod => "Mod"
  | .eq => "Eq"
  | .ne => "Ne"
  | .lt => "Lt"
  | .le => "Le"
  | .gt => "Gt"
  | .ge => "Ge"
  | .and => "And"
  | .or => "Or"

/-- The name of an operator. -/
def unaryOp : UnaryOp → String
  | .neg => "Neg"
  | .not => "Not"

/-- A node: its form, then its parts. -/
def node (form : String) (parts : List Json) : Json := .array (.text form :: parts)

mutual

/-- An expression. -/
def expr : Expr → Json
  | .literal l => node "lit" [literal l]
  | .name s => node "id" [.text s]
  | .binary op l r => node (binaryOp op) [expr l, expr r]
  | .unary op e => node (unaryOp op) [expr e]
  | .call callee arguments => node "call" [expr callee, .array (exprs [] arguments)]
  | .index e key => node "index" [expr e, expr key]
  | .member e key => node "member" [expr e, .text key]
  | .array items => node "array" [.array (exprs [] items)]
  | .object members => node "object" [.array (exprMembers [] members)]
  | .lambda parameters body => node "lambda" [texts parameters, expr body]

/-- Expressions one after the other; `done` in reverse. -/
def exprs (done : List Json) : List Expr → List Json
  | [] => done.reverse
  | e :: es => exprs (expr e :: done) es

/-- The members of an object in the order written; `done` in reverse. -/
def exprMembers (done : List Json) : List (String × Expr) → List Json
  | [] => done.reverse
  | (key, e) :: ms => exprMembers (.array [.text key, expr e] :: done) ms

end

mutual

/-- A statement. -/
def stmt : Stmt → Json
  | .expr e => node "expr" [expr e]
  | .declare name value => node "let" [.text name, expr (value.getD (.literal .null))]
  | .assign name e => node "assign" [.text name, expr e]
  | .block body => node "block" [.array (stmts [] body)]
  | .branch condition body otherwise =>
    node "if" [expr condition, node "block" [.array (stmts [] body)], elseOf otherwise]
  | .loop condition body => node "while" [expr condition, node "block" [.array (stmts [] body)]]
  | .each item source body =>
    node "for" [.text item, expr source, node "block" [.array (stmts [] body)]]
  | .function name parameters body =>
    node "fn" [.text name, texts parameters, .array (stmts [] body)]
  | .result value => node "return" [optional expr value]
  | .leaveLoop => node "break" []
  | .nextTurn => node "continue" []

/-- What follows an `else`. -/
def elseOf : Otherwise → Json
  | .nothing => .null
  | .block body => node "block" [.array (stmts [] body)]
  | .branch condition body otherwise =>
    node "if" [expr condition, node "block" [.array (stmts [] body)], elseOf otherwise]

/-- Statements one after the other; `done` in reverse. -/
def stmts (done : List Json) : List Stmt → List Json
  | [] => done.reverse
  | s :: ss => stmts (stmt s :: done) ss

end

end MockupStudio.Inspect
