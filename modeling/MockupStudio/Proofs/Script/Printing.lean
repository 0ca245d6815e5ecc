/-
Writing syntax trees as tokens.

* `Expr.strength`: how tightly the outermost part of an expression holds
  together, from 0 for a lambda over the binding strengths of the operators to
  8 for what calls, indexes and members can follow;
* `Expr.written`, `Stmt.written`, `Code.written`: the tokens of a tree, with
  brackets around an expression just where it would be torn apart otherwise;
* `Expr.isBrief`, `Stmt.isBrief`, `Code.isBrief`: no list of parameters or
  arguments is longer than the grammar allows;
* `Expr.exists_written`: what an expression begins with;
* `Expr.opensMember_written`: no expression begins like the member of an object.
-/
import MockupStudio.Script.Parser
import Mathlib.Tactic.Lemma

namespace MockupStudio.Script

/-- The symbol of an operator between two expressions. -/
def BinaryOp.symbol : BinaryOp → Symbol
  | add => .plus
  | sub => .minus
  | mul => .star
  | div => .slash
  | mod => .percent
  | eq => .equal
  | ne => .unequal
  | lt => .less
  | le => .lessEqual
  | gt => .greater
  | ge => .greaterEqual
  | and => .both
  | or => .either

/-- The symbol of an operator before an expression. -/
def UnaryOp.symbol : UnaryOp → Symbol
  | neg => .minus
  | not => .bang

@[simp] lemma BinaryOp.ofSymbol?_symbol (op : BinaryOp) : ofSymbol? op.symbol = some op := by
  cases op <;> rfl

@[simp] lemma UnaryOp.ofSymbol?_symbol (op : UnaryOp) : ofSymbol? op.symbol = some op := by
  cases op <;> rfl

/-! ### Expressions -/

/-- How tightly the outermost part of an expression holds together. -/
def Expr.strength : Expr → Nat
  | .lambda .. => 0
  | .binary op _ _ => op.precedence
  | .unary .. => 7
  | _ => 8

/-- The tokens of an expression of some strength where at least so much is
needed: if it is weaker it stands in brackets. -/
def enclosed (least strength : Nat) (kinds : List Token.Kind) : List Token.Kind :=
  if strength < least then .symbol .leftParen :: (kinds ++ [.symbol .rightParen]) else kinds

/-- Names with commas before them. -/
def moreNames : List String → List Token.Kind
  | [] => []
  | x :: xs => .symbol .comma :: .name x :: moreNames xs

/-- Names with commas between them. -/
def writtenNames : List String → List Token.Kind
  | [] => []
  | x :: xs => .name x :: moreNames xs

/-- The parameters of a lambda between bars; no parameters are a single
token. -/
def writtenBars : List String → List Token.Kind
  | [] => [.symbol .either]
  | x :: xs => .symbol .pipe :: (writtenNames (x :: xs) ++ [.symbol .pipe])

mutual

/-- The tokens of an expression. -/
def Expr.written : Expr → List Token.Kind
  | .literal l => [.literal l]
  | .name x => [.name x]
  | .binary op left right =>
    enclosed op.precedence left.strength left.written
      ++ .symbol op.symbol :: enclosed (op.precedence + 1) right.strength right.written
  | .unary op operand => .symbol op.symbol :: enclosed 7 operand.strength operand.written
  | .call callee arguments =>
    enclosed 8 callee.strength callee.written
      ++ .symbol .leftParen :: (Expr.writtenList arguments ++ [.symbol .rightParen])
  | .index base key =>
    enclosed 8 base.strength base.written
      ++ .symbol .leftBracket :: (key.written ++ [.symbol .rightBracket])
  | .member base key =>
    enclosed 8 base.strength base.written ++ [.symbol .dot, .name key]
  | .array items => .symbol .leftBracket :: (Expr.writtenList items ++ [.symbol .rightBracket])
  | .object members =>
    .symbol .leftBrace :: (Expr.writtenMembers members ++ [.symbol .rightBrace])
  | .lambda parameters body => writtenBars parameters ++ body.written

/-- Expressions with commas between them. -/
def Expr.writtenList : List Expr → List Token.Kind
  | [] => []
  | e :: es => e.written ++ Expr.moreList es

/-- Expressions with commas before them. -/
def Expr.moreList : List Expr → List Token.Kind
  | [] => []
  | e :: es => .symbol .comma :: (e.written ++ Expr.moreList es)

/-- Members with commas between them, their keys as texts. -/
def Expr.writtenMembers : List (String × Expr) → List Token.Kind
  | [] => []
  | (key, e) :: ms =>
    .literal (.text key) :: .symbol .colon :: (e.written ++ Expr.moreMembers ms)

/-- Members with commas before them. -/
def Expr.moreMembers : List (String × Expr) → List Token.Kind
  | [] => []
  | (key, e) :: ms =>
    .symbol .comma :: .literal (.text key) :: .symbol .colon :: (e.written ++ Expr.moreMembers ms)

end

mutual

/-- Whether no list of parameters or arguments is longer than 255. -/
def Expr.isBrief : Expr → Bool
  | .literal _ | .name _ => true
  | .binary _ left right => left.isBrief && right.isBrief
  | .unary _ operand => operand.isBrief
  | .call callee arguments =>
    callee.isBrief && arguments.length ≤ 255 && Expr.areBrief arguments
  | .index base key => base.isBrief && key.isBrief
  | .member base _ => base.isBrief
  | .array items => Expr.areBrief items
  | .object members => Expr.membersBrief members
  | .lambda parameters body => parameters.length ≤ 255 && body.isBrief

def Expr.areBrief : List Expr → Bool
  | [] => true
  | e :: es => e.isBrief && Expr.areBrief es

def Expr.membersBrief : List (String × Expr) → Bool
  | [] => true
  | (_, e) :: ms => e.isBrief && Expr.membersBrief ms

end

/-! ### Statements -/

/-- Tokens between braces. -/
def inBraces (kinds : List Token.Kind) : List Token.Kind :=
  .symbol .leftBrace :: (kinds ++ [.symbol .rightBrace])

/-- An expression as a statement: it stands in brackets if it would begin
like a block. -/
def Expr.writtenAlone (e : Expr) : List Token.Kind :=
  if e.written.head?.any (Grammar.isSymbol .leftBrace) then
    .symbol .leftParen :: (e.written ++ [.symbol .rightParen])
  else e.written

mutual

/-- The tokens of a statement. -/
def Stmt.written : Stmt → List Token.Kind
  | .expr e => e.writtenAlone ++ [.symbol .semicolon]
  | .declare x none => [.keyword .letWord, .name x, .symbol .semicolon]
  | .declare x (some e) =>
    .keyword .letWord :: .name x :: .symbol .assign :: (e.written ++ [.symbol .semicolon])
  | .assign x e => .name x :: .symbol .assign :: (e.written ++ [.symbol .semicolon])
  | .block body => inBraces (Code.written body)
  | .branch condition body otherwise =>
    .keyword .ifWord :: (condition.written ++ (inBraces (Code.written body) ++ otherwise.written))
  | .loop condition body =>
    .keyword .whileWord :: (condition.written ++ inBraces (Code.written body))
  | .each item source body =>
    .keyword .forWord :: .name item :: .keyword .inWord
      :: (source.written ++ inBraces (Code.written body))
  | .function x parameters body =>
    .keyword .fnWord :: .name x :: .symbol .leftParen
      :: (writtenNames parameters ++ .symbol .rightParen :: inBraces (Code.written body))
  | .result none => [.keyword .returnWord, .symbol .semicolon]
  | .result (some e) => .keyword .returnWord :: (e.written ++ [.symbol .semicolon])
  | .leaveLoop => [.keyword .breakWord, .symbol .semicolon]
  | .nextTurn => [.keyword .continueWord, .symbol .semicolon]

/-- The tokens of what is done when a condition fails. -/
def Otherwise.written : Otherwise → List Token.Kind
  | .nothing => []
  | .block body => .keyword .elseWord :: inBraces (Code.written body)
  | .branch condition body otherwise =>
    .keyword .elseWord :: .keyword .ifWord
      :: (condition.written ++ (inBraces (Code.written body) ++ otherwise.written))

/-- The tokens of statements. -/
def Code.written : Code → List Token.Kind
  | [] => []
  | s :: rest => s.written ++ Code.written rest

end

mutual

/-- Whether no list of parameters or arguments is longer than 255. -/
def Stmt.isBrief : Stmt → Bool
  | .expr e | .assign _ e => e.isBrief
  | .declare _ value | .result value => value.all Expr.isBrief
  | .block body => Code.isBrief body
  | .branch condition body otherwise =>
    condition.isBrief && Code.isBrief body && otherwise.isBrief
  | .loop condition body => condition.isBrief && Code.isBrief body
  | .each _ source body => source.isBrief && Code.isBrief body
  | .function _ parameters body => parameters.length ≤ 255 && Code.isBrief body
  | .leaveLoop | .nextTurn => true

def Otherwise.isBrief : Otherwise → Bool
  | .nothing => true
  | .block body => Code.isBrief body
  | .branch condition body otherwise =>
    condition.isBrief && Code.isBrief body && otherwise.isBrief

def Code.isBrief : Code → Bool
  | [] => true
  | s :: rest => s.isBrief && Code.isBrief rest

end

/-! ### What expressions begin with -/

/-- Whether an expression can begin with a token. -/
def Token.Kind.opensExpression : Token.Kind → Bool
  | .literal _ | .name _ => true
  | .symbol m =>
    m ∈ [Symbol.leftParen, .leftBracket, .leftBrace, .pipe, .either, .minus, .bang]
  | _ => false

lemma exists_enclosed {kinds : List Token.Kind}
    (h : ∃ k more, kinds = k :: more ∧ k.opensExpression) (least strength : Nat) :
    ∃ k more, enclosed least strength kinds = k :: more ∧ k.opensExpression := by
  rw [enclosed]
  split
  · exact ⟨_, _, rfl, rfl⟩
  · exact h

/-- An expression begins with a token that only expressions begin with. -/
theorem Expr.exists_written : (e : Expr) → ∃ k more, e.written = k :: more ∧ k.opensExpression
  | .literal _ | .name _ | .array _ | .object _ => ⟨_, _, rfl, rfl⟩
  | .lambda [] _ => ⟨_, _, rfl, rfl⟩
  | .lambda (_ :: _) _ => ⟨_, _, rfl, rfl⟩
  | .unary .neg _ => ⟨_, _, rfl, rfl⟩
  | .unary .not _ => ⟨_, _, rfl, rfl⟩
  | .binary op left right => by
    obtain ⟨k, more, h, hk⟩ := exists_enclosed left.exists_written op.precedence left.strength
    exact ⟨k, _, by rw [Expr.written, h]; rfl, hk⟩
  | .call callee arguments => by
    obtain ⟨k, more, h, hk⟩ := exists_enclosed callee.exists_written 8 callee.strength
    exact ⟨k, _, by rw [Expr.written, h]; rfl, hk⟩
  | .index base key => by
    obtain ⟨k, more, h, hk⟩ := exists_enclosed base.exists_written 8 base.strength
    exact ⟨k, _, by rw [Expr.written, h]; rfl, hk⟩
  | .member base key => by
    obtain ⟨k, more, h, hk⟩ := exists_enclosed base.exists_written 8 base.strength
    exact ⟨k, _, by rw [Expr.written, h]; rfl, hk⟩

/-- Whether tokens begin with a colon. -/
def beginsWithColon (kinds : List Token.Kind) : Bool :=
  kinds.head?.any (Grammar.isSymbol .colon)

/-- Whether tokens begin like the member of an object. -/
def opensMember : List Token.Kind → Bool
  | .name _ :: more | .literal (.text _) :: more => beginsWithColon more
  | _ => false

lemma opensMember_enclosed {kinds more : List Token.Kind}
    (h : opensMember (kinds ++ more) = false) (least strength : Nat) :
    opensMember (enclosed least strength kinds ++ more) = false := by
  rw [enclosed]
  split
  · rfl
  · exact h

/-- No expression begins like the member of an object. -/
theorem Expr.opensMember_written : (e : Expr) → ∀ more, beginsWithColon more = false →
    opensMember (e.written ++ more) = false
  | .literal l, more, hmore => by cases l <;> first | exact hmore | rfl
  | .name _, _, hmore => hmore
  | .unary _ _, _, _ | .array _, _, _ | .object _, _, _ => rfl
  | .lambda [] _, _, _ | .lambda (_ :: _) _, _, _ => rfl
  | .binary op left right, more, _ => by
    rw [Expr.written, List.append_assoc]
    refine opensMember_enclosed (left.opensMember_written _ ?_) _ _
    cases op <;> rfl
  | .call callee arguments, more, _ => by
    rw [Expr.written, List.append_assoc]
    exact opensMember_enclosed (callee.opensMember_written _ rfl) _ _
  | .index base key, more, _ => by
    rw [Expr.written, List.append_assoc]
    exact opensMember_enclosed (base.opensMember_written _ rfl) _ _
  | .member base key, more, _ => by
    rw [Expr.written, List.append_assoc]
    exact opensMember_enclosed (base.opensMember_written _ rfl) _ _

end MockupStudio.Script
