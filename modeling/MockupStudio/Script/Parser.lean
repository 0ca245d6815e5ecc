/-
From tokens to syntax trees.

The parser works on the tokens that are left before the first end of text.
It is given the number of nesting levels that are still free (`room`):
declarations, expressions, unary operators, each `else if` and every link of
a chain of operators, calls, indexes or members take one, so trees higher
than the limit are refused.

* `Parsed`: a result together with the tokens left, fewer than before;
* `expression`, `precedence`, `unary`, `postfix?`, `primary`: expressions,
  by the binding strength of their operators;
* `declaration`, `statement`, `blockBody`: statements;
* `Code.parse`, `Expr.parse`: whole token lists.

Every function passes on fewer tokens or less room, and from one level of
the grammar to the next lower one otherwise, which is the measure
`(room, level, tokens left)` under which they end.
-/
import MockupStudio.Script.Syntax

namespace MockupStudio.Script

/-- What a rule of the grammar asked for. -/
inductive Expectation where
  | variableName | functionName | parameterName | loopVariableName
  | propertyName | memberName
  | parenAfterFunctionName | parenAfterParameters | braceBeforeBody
  | braceAfterIf | braceAfterElse | braceAfterWhile | braceAfterLoopHeader
  | inAfterLoopVariable | parenAfterLoopHeader | braceAfterBlock
  | semicolonAfterStatement | bracketAfterIndex | parenAfterArguments
  | parenAfterExpression | bracketAfterItems | colonAfterProperty
  | braceAfterObject | pipeAfterParameters
  deriving Repr, DecidableEq

/-- The wording of an expectation. -/
def Expectation.text : Expectation → String
  | variableName => "Expected variable name"
  | functionName => "Expected function name"
  | parameterName => "Expected parameter name"
  | loopVariableName => "Expected loop variable name"
  | propertyName => "Expected property name"
  | memberName => "Expected property name after '.'"
  | parenAfterFunctionName => "Expected '(' after function name"
  | parenAfterParameters => "Expected ')' after parameters"
  | braceBeforeBody => "Expected '\x7b' before function body"
  | braceAfterIf => "Expected '\x7b' after if condition"
  | braceAfterElse => "Expected '\x7b' after 'else'"
  | braceAfterWhile => "Expected '\x7b' after while condition"
  | braceAfterLoopHeader => "Expected '\x7b' after loop header"
  | inAfterLoopVariable => "Expected 'in' after loop variable"
  | parenAfterLoopHeader => "Expected ')' after loop header"
  | braceAfterBlock => "Expected '\x7d' after block"
  | semicolonAfterStatement => "Expected ';' after statement"
  | bracketAfterIndex => "Expected ']' after index"
  | parenAfterArguments => "Expected ')' after arguments"
  | parenAfterExpression => "Expected ')' after expression"
  | bracketAfterItems => "Expected ']' after array elements"
  | colonAfterProperty => "Expected ':' after property name"
  | braceAfterObject => "Expected '\x7d' after object"
  | pipeAfterParameters => "Expected '|' after lambda parameters"

/-- Why tokens are no script. -/
inductive ParseError where
  | unexpected (found : Token.Kind) (line : Nat)
  | expected (what : Expectation) (found : Token.Kind) (line : Nat)
  | invalidAssignment (line : Nat)
  | tooManyArguments (line : Nat)
  | tooDeep (limit line : Nat)

/-- The line an error points at. -/
def ParseError.line : ParseError → Nat
  | unexpected _ line | expected _ _ line | invalidAssignment line
  | tooManyArguments line | tooDeep _ line => line

/-- The wording of an error. -/
def ParseError.message : ParseError → String
  | unexpected found line =>
    "Unexpected token " ++ found.shown ++ " at line " ++ toString line
  | expected what found line =>
    what.text ++ ", found " ++ found.shown ++ " at line " ++ toString line
  | invalidAssignment line => "Invalid assignment target at line " ++ toString line
  | tooManyArguments line => "Too many arguments (max 255) at line " ++ toString line
  | tooDeep limit line =>
    "Nesting deeper than " ++ toString limit ++ " at line " ++ toString line

/-- What stays the same while a token list is parsed. -/
structure Grammar where
  /-- The nesting levels allowed. -/
  limit : Nat
  /-- The line reported at the end of the tokens. -/
  endLine : Nat

/-- A result and the tokens after it, fewer than `bound`. -/
structure Parsed (α : Type) (bound : Nat) where
  value : α
  rest : List Token
  shorter : rest.length < bound

/-- The outcome of reading at least one token of `ts`. -/
abbrev Parse (α : Type) (ts : List Token) := Except ParseError (Parsed α ts.length)

/-- The outcome of reading any number of tokens of `ts`. -/
abbrev ParseAny (α : Type) (ts : List Token) := Except ParseError (Parsed α (ts.length + 1))

namespace Grammar

/-! ### Single tokens -/

/-- The line of the next token. -/
def line (g : Grammar) : List Token → Nat
  | t :: _ => t.position.line
  | [] => g.endLine

/-- The next token for an error message. -/
def found : List Token → Token.Kind
  | t :: _ => t.kind
  | [] => .endOfText

/-- The error that a rule asked for something else. -/
def fail (g : Grammar) (what : Expectation) (ts : List Token) : Except ParseError α :=
  .error (.expected what (found ts) (g.line ts))

/-- The error that no rule begins with the next token. -/
def stray (g : Grammar) (ts : List Token) : Except ParseError α :=
  .error (.unexpected (found ts) (g.line ts))

/-- The error that no nesting level is free. -/
def tooDeep (g : Grammar) (ts : List Token) : Except ParseError α :=
  .error (.tooDeep g.limit (g.line ts))

/-- Whether a token is a given symbol. -/
def isSymbol (m : Symbol) : Token.Kind → Bool
  | .symbol n => m = n
  | _ => false

/-- Whether a token is a given keyword. -/
def isKeyword (k : Keyword) : Token.Kind → Bool
  | .keyword l => k = l
  | _ => false

/-- Whether the next token is a given symbol. -/
def startsWith (m : Symbol) : List Token → Bool
  | t :: _ => isSymbol m t.kind
  | [] => false

/-- A symbol that has to come next. -/
def symbol (g : Grammar) (m : Symbol) (what : Expectation) (ts : List Token) :
    Parse Unit ts :=
  match ts with
  | t :: rest =>
    if isSymbol m t.kind then .ok ⟨(), rest, by simp⟩ else g.fail what (t :: rest)
  | [] => g.fail what []

/-- A keyword that has to come next. -/
def keyword (g : Grammar) (k : Keyword) (what : Expectation) (ts : List Token) :
    Parse Unit ts :=
  match ts with
  | t :: rest =>
    if isKeyword k t.kind then .ok ⟨(), rest, by simp⟩ else g.fail what (t :: rest)
  | [] => g.fail what []

/-- A name that has to come next. -/
def name (g : Grammar) (what : Expectation) (ts : List Token) : Parse String ts :=
  match ts with
  | ⟨.name s, _⟩ :: rest => .ok ⟨s, rest, by simp⟩
  | ts => g.fail what ts

/-- The tokens after an optional symbol, and whether it was there. -/
def skipSymbol (m : Symbol) (ts : List Token) : Parsed Bool (ts.length + 1) :=
  match ts with
  | t :: rest =>
    if isSymbol m t.kind then ⟨true, rest, by simp only [List.length_cons]; omega⟩
    else ⟨false, t :: rest, by simp⟩
  | [] => ⟨false, [], by simp⟩

/-- The tokens after an optional keyword, and whether it was there. -/
def skipKeyword (k : Keyword) (ts : List Token) : Parsed Bool (ts.length + 1) :=
  match ts with
  | t :: rest =>
    if isKeyword k t.kind then ⟨true, rest, by simp only [List.length_cons]; omega⟩
    else ⟨false, t :: rest, by simp⟩
  | [] => ⟨false, [], by simp⟩

/-- The end of a statement: a semicolon, or nothing before `}` and the end. -/
def statementEnd (g : Grammar) (ts : List Token) : ParseAny Unit ts :=
  match ts with
  | [] => .ok ⟨(), [], by simp⟩
  | t :: rest =>
    if isSymbol .semicolon t.kind then .ok ⟨(), rest, by simp only [List.length_cons]; omega⟩
    else if isSymbol .rightBrace t.kind then .ok ⟨(), t :: rest, by simp⟩
    else g.fail .semicolonAfterStatement (t :: rest)

/-- Parameter names separated by commas, at most 255; `done` in reverse. -/
def parametersFrom (g : Grammar) (done : List String) (ts : List Token) :
    Parse (List String) ts :=
  if 255 ≤ done.length then .error (.tooManyArguments (g.line ts))
  else
    match g.name .parameterName ts with
    | .error e => .error e
    | .ok ⟨p, t :: rest, h⟩ =>
      if isSymbol .comma t.kind then
        match parametersFrom g (p :: done) rest with
        | .error e => .error e
        | .ok ⟨ps, rest', h'⟩ => .ok ⟨ps, rest', by simp only [List.length_cons] at h; omega⟩
      else .ok ⟨(p :: done).reverse, t :: rest, h⟩
    | .ok ⟨p, [], h⟩ => .ok ⟨(p :: done).reverse, [], h⟩
termination_by ts.length
decreasing_by simp only [List.length_cons] at h; omega

/-- Parameter names up to a closing symbol, which is left. -/
def parameters (g : Grammar) (close : Symbol) (ts : List Token) :
    ParseAny (List String) ts :=
  if startsWith close ts then .ok ⟨[], ts, by simp⟩
  else (g.parametersFrom [] ts).map fun p => ⟨p.value, p.rest, by have := p.shorter; omega⟩

/-- The key of a property: a name, a text or a whole number. -/
def propertyKey (g : Grammar) (ts : List Token) : Parse String ts :=
  match ts with
  | ⟨.name s, _⟩ :: rest => .ok ⟨s, rest, by simp⟩
  | ⟨.literal (.text s), _⟩ :: rest => .ok ⟨s, rest, by simp⟩
  | ⟨.literal (.int n), _⟩ :: rest => .ok ⟨Decimal.integer n.toInt, rest, by simp⟩
  | ts => g.fail .propertyName ts

/-! ### Expressions -/

mutual

/-- An expression, one level down. -/
def expression (g : Grammar) (room : Nat) (ts : List Token) : Parse Expr ts :=
  match room with
  | 0 => g.tooDeep ts
  | room + 1 => precedence g room 1 ts
termination_by (room, 1, 0)

/-- An expression whose operators outside brackets bind at least as tightly
as `least`. -/
def precedence (g : Grammar) (room least : Nat) (ts : List Token) : Parse Expr ts :=
  match unary g room ts with
  | .error e => .error e
  | .ok ⟨left, rest, h⟩ =>
    match operators g room least left rest with
    | .error e => .error e
    | .ok ⟨e, rest', h'⟩ => .ok ⟨e, rest', by omega⟩
termination_by (room, 7, 0)

/-- The links of a chain of operators after its first operand. -/
def operators (g : Grammar) (room least : Nat) (left : Expr) (ts : List Token) :
    ParseAny Expr ts :=
  match ts with
  | ⟨.symbol m, p⟩ :: rest =>
    match BinaryOp.ofSymbol? m with
    | none => .ok ⟨left, ⟨.symbol m, p⟩ :: rest, by simp⟩
    | some op =>
      if op.precedence < least then .ok ⟨left, ⟨.symbol m, p⟩ :: rest, by simp⟩
      else
        match room with
        | 0 => g.tooDeep rest
        | room + 1 =>
          match precedence g room (op.precedence + 1) rest with
          | .error e => .error e
          | .ok ⟨right, rest', h⟩ =>
            match operators g room least (.binary op left right) rest' with
            | .error e => .error e
            | .ok ⟨e, rest'', h'⟩ => .ok ⟨e, rest'', by simp; omega⟩
  | ts => .ok ⟨left, ts, by simp⟩
termination_by (room, 5, 0)

/-- An operand with the operators before it. -/
def unary (g : Grammar) (room : Nat) (ts : List Token) : Parse Expr ts :=
  match ts with
  | ⟨.symbol m, p⟩ :: rest =>
    match UnaryOp.ofSymbol? m with
    | none => chain g room (⟨.symbol m, p⟩ :: rest)
    | some op =>
      match room with
      | 0 => g.tooDeep rest
      | room + 1 =>
        match unary g room rest with
        | .error e => .error e
        | .ok ⟨e, rest', h⟩ => .ok ⟨.unary op e, rest', by simp; omega⟩
  | ts => chain g room ts
termination_by (room, 6, 0)

/-- An operand with the calls, members and indexes after it. -/
def chain (g : Grammar) (room : Nat) (ts : List Token) : Parse Expr ts :=
  match primary g room ts with
  | .error e => .error e
  | .ok ⟨base, rest, h⟩ =>
    match links g room base rest with
    | .error e => .error e
    | .ok ⟨e, rest', h'⟩ => .ok ⟨e, rest', by omega⟩
termination_by (room, 5, 0)

/-- The links of a chain of calls, members and indexes after its base. -/
def links (g : Grammar) (room : Nat) (base : Expr) (ts : List Token) : ParseAny Expr ts :=
  match ts with
  | ⟨.symbol .leftParen, p⟩ :: rest =>
    match room with
    | 0 => g.tooDeep (⟨.symbol .leftParen, p⟩ :: rest)
    | room + 1 =>
      match callArguments g room rest with
      | .error e => .error e
      | .ok ⟨args, rest', h⟩ =>
        match links g room (.call base args) rest' with
        | .error e => .error e
        | .ok ⟨e, rest'', h'⟩ => .ok ⟨e, rest'', by simp; omega⟩
  | ⟨.symbol .dot, p⟩ :: rest =>
    match room with
    | 0 => g.tooDeep (⟨.symbol .dot, p⟩ :: rest)
    | room + 1 =>
      match g.name .memberName rest with
      | .error e => .error e
      | .ok ⟨key, rest', h⟩ =>
        match links g room (.member base key) rest' with
        | .error e => .error e
        | .ok ⟨e, rest'', h'⟩ => .ok ⟨e, rest'', by simp; omega⟩
  | ⟨.symbol .leftBracket, p⟩ :: rest =>
    match room with
    | 0 => g.tooDeep (⟨.symbol .leftBracket, p⟩ :: rest)
    | room + 1 =>
      match expression g room rest with
      | .error e => .error e
      | .ok ⟨key, rest', h⟩ =>
        match g.symbol .rightBracket .bracketAfterIndex rest' with
        | .error e => .error e
        | .ok ⟨_, rest'', h'⟩ =>
          match links g room (.index base key) rest'' with
          | .error e => .error e
          | .ok ⟨e, rest''', h''⟩ => .ok ⟨e, rest''', by simp; omega⟩
  | ts => .ok ⟨base, ts, by simp⟩
termination_by (room, 4, 0)

/-- The arguments of a call after its opening parenthesis. -/
def callArguments (g : Grammar) (room : Nat) (ts : List Token) : Parse (List Expr) ts :=
  if startsWith .rightParen ts then
    (g.symbol .rightParen .parenAfterArguments ts).map fun p => ⟨[], p.rest, p.shorter⟩
  else
    match arguments g room [] ts with
    | .error e => .error e
    | .ok ⟨args, rest, h⟩ =>
      match g.symbol .rightParen .parenAfterArguments rest with
      | .error e => .error e
      | .ok ⟨_, rest', h'⟩ => .ok ⟨args, rest', by omega⟩
termination_by (room, 3, 0)

/-- Arguments separated by commas, at most 255; `done` in reverse. -/
def arguments (g : Grammar) (room : Nat) (done : List Expr) (ts : List Token) :
    Parse (List Expr) ts :=
  if 255 ≤ done.length then .error (.tooManyArguments (g.line ts))
  else
    match expression g room ts with
    | .error e => .error e
    | .ok ⟨arg, t :: rest, h⟩ =>
      if isSymbol .comma t.kind then
        if startsWith .rightParen rest then
          .ok ⟨(arg :: done).reverse, rest, by simp only [List.length_cons] at h; omega⟩
        else
          match arguments g room (arg :: done) rest with
          | .error e => .error e
          | .ok ⟨args, rest', h'⟩ =>
            .ok ⟨args, rest', by simp only [List.length_cons] at h; omega⟩
      else .ok ⟨(arg :: done).reverse, t :: rest, h⟩
    | .ok ⟨arg, [], h⟩ => .ok ⟨(arg :: done).reverse, [], h⟩
termination_by (room, 2, ts.length)
decreasing_by all_goals grind

/-- A constant, a name, something in brackets, or a lambda. -/
def primary (g : Grammar) (room : Nat) (ts : List Token) : Parse Expr ts :=
  match ts with
  | ⟨.literal l, _⟩ :: rest => .ok ⟨.literal l, rest, by simp⟩
  | ⟨.name s, _⟩ :: rest => .ok ⟨.name s, rest, by simp⟩
  | ⟨.symbol .leftParen, _⟩ :: rest =>
    match expression g room rest with
    | .error e => .error e
    | .ok ⟨e, rest', h⟩ =>
      match g.symbol .rightParen .parenAfterExpression rest' with
      | .error e => .error e
      | .ok ⟨_, rest'', h'⟩ => .ok ⟨e, rest'', by simp; omega⟩
  | ⟨.symbol .leftBracket, _⟩ :: rest =>
    match items g room [] rest with
    | .error e => .error e
    | .ok ⟨es, rest', h⟩ => .ok ⟨.array es, rest', by simp; omega⟩
  | ⟨.symbol .leftBrace, _⟩ :: rest =>
    match members g room [] rest with
    | .error e => .error e
    | .ok ⟨ms, rest', h⟩ => .ok ⟨.object ms, rest', by simp; omega⟩
  | ⟨.symbol .either, _⟩ :: rest =>
    match expression g room rest with
    | .error e => .error e
    | .ok ⟨body, rest', h⟩ => .ok ⟨.lambda [] body, rest', by simp; omega⟩
  | ⟨.symbol .pipe, _⟩ :: rest =>
    match g.parameters .pipe rest with
    | .error e => .error e
    | .ok ⟨ps, rest', h⟩ =>
      match g.symbol .pipe .pipeAfterParameters rest' with
      | .error e => .error e
      | .ok ⟨_, rest'', h'⟩ =>
        match expression g room rest'' with
        | .error e => .error e
        | .ok ⟨body, rest''', h''⟩ => .ok ⟨.lambda ps body, rest''', by simp; omega⟩
  | ts => g.stray ts
termination_by (room, 4, 0)

/-- The items of an array up to its closing bracket; `done` in reverse. -/
def items (g : Grammar) (room : Nat) (done : List Expr) (ts : List Token) :
    Parse (List Expr) ts :=
  if startsWith .rightBracket ts then
    (g.symbol .rightBracket .bracketAfterItems ts).map
      fun p => ⟨done.reverse, p.rest, p.shorter⟩
  else
    match expression g room ts with
    | .error e => .error e
    | .ok ⟨item, rest, h⟩ =>
      match skipSymbol .comma rest with
      | ⟨true, rest', h'⟩ =>
        match items g room (item :: done) rest' with
        | .error e => .error e
        | .ok ⟨es, rest'', h''⟩ => .ok ⟨es, rest'', by omega⟩
      | ⟨false, rest', h'⟩ =>
        match g.symbol .rightBracket .bracketAfterItems rest' with
        | .error e => .error e
        | .ok ⟨_, rest'', h''⟩ => .ok ⟨(item :: done).reverse, rest'', by omega⟩
termination_by (room, 2, ts.length)
decreasing_by all_goals grind

/-- The members of an object up to its closing brace; `done` in reverse. -/
def members (g : Grammar) (room : Nat) (done : List (String × Expr)) (ts : List Token) :
    Parse (List (String × Expr)) ts :=
  if startsWith .rightBrace ts then
    (g.symbol .rightBrace .braceAfterObject ts).map
      fun p => ⟨done.reverse, p.rest, p.shorter⟩
  else
    match g.propertyKey ts with
    | .error e => .error e
    | .ok ⟨key, rest, h⟩ =>
      match g.symbol .colon .colonAfterProperty rest with
      | .error e => .error e
      | .ok ⟨_, rest', h'⟩ =>
        match expression g room rest' with
        | .error e => .error e
        | .ok ⟨item, rest'', h''⟩ =>
          match skipSymbol .comma rest'' with
          | ⟨true, rest''', h₃⟩ =>
            match members g room ((key, item) :: done) rest''' with
            | .error e => .error e
            | .ok ⟨ms, left, h₄⟩ => .ok ⟨ms, left, by omega⟩
          | ⟨false, rest''', h₃⟩ =>
            match g.symbol .rightBrace .braceAfterObject rest''' with
            | .error e => .error e
            | .ok ⟨_, left, h₄⟩ => .ok ⟨((key, item) :: done).reverse, left, by omega⟩
termination_by (room, 2, ts.length)
decreasing_by all_goals grind

end

/-! ### Statements without inner statements -/

/-- The rest of a declaration after `let`. -/
def variableDeclaration (g : Grammar) (room : Nat) (ts : List Token) : Parse Stmt ts :=
  match g.name .variableName ts with
  | .error e => .error e
  | .ok ⟨x, rest, h⟩ =>
    match skipSymbol .assign rest with
    | ⟨false, rest', h'⟩ =>
      match g.statementEnd rest' with
      | .error e => .error e
      | .ok ⟨_, rest'', h''⟩ => .ok ⟨.declare x none, rest'', by omega⟩
    | ⟨true, rest', h'⟩ =>
      match g.expression room rest' with
      | .error e => .error e
      | .ok ⟨value, rest'', h''⟩ =>
        match g.statementEnd rest'' with
        | .error e => .error e
        | .ok ⟨_, left, h₃⟩ => .ok ⟨.declare x (some value), left, by omega⟩

/-- An expression or an assignment; only names can be assigned. -/
def expressionStatement (g : Grammar) (room : Nat) (ts : List Token) : Parse Stmt ts :=
  match g.expression room ts with
  | .error e => .error e
  | .ok ⟨target, rest, h⟩ =>
    match skipSymbol .assign rest with
    | ⟨false, rest', h'⟩ =>
      match g.statementEnd rest' with
      | .error e => .error e
      | .ok ⟨_, rest'', h''⟩ => .ok ⟨.expr target, rest'', by omega⟩
    | ⟨true, rest', h'⟩ =>
      match g.expression room rest' with
      | .error e => .error e
      | .ok ⟨value, rest'', h''⟩ =>
        match g.statementEnd rest'' with
        | .error e => .error e
        | .ok ⟨_, left, h₃⟩ =>
          match target with
          | .name x => .ok ⟨.assign x value, left, by omega⟩
          | _ => .error (.invalidAssignment (g.line ts))

/-- Whether nothing is returned: a semicolon, a closing brace or the end. -/
def returnsNothing : List Token → Bool
  | [] => true
  | t :: _ => isSymbol .semicolon t.kind || isSymbol .rightBrace t.kind

/-- The rest of a statement after `return`. -/
def returnStatement (g : Grammar) (room : Nat) (ts : List Token) : ParseAny Stmt ts :=
  if returnsNothing ts then
    (g.statementEnd ts).map fun p => ⟨.result none, p.rest, p.shorter⟩
  else
    match g.expression room ts with
    | .error e => .error e
    | .ok ⟨value, rest, h⟩ =>
      match g.statementEnd rest with
      | .error e => .error e
      | .ok ⟨_, rest', h'⟩ => .ok ⟨.result (some value), rest', by omega⟩

/-- The header of a loop over items: its variable and what it runs over. -/
def loopHeader (g : Grammar) (room : Nat) (ts : List Token) : Parse (String × Expr) ts :=
  match skipSymbol .leftParen ts with
  | ⟨bracketed, rest, h⟩ =>
    match skipKeyword .letWord rest with
    | ⟨_, rest₁, h₁⟩ =>
      match g.name .loopVariableName rest₁ with
      | .error e => .error e
      | .ok ⟨x, rest₂, h₂⟩ =>
        match g.keyword .inWord .inAfterLoopVariable rest₂ with
        | .error e => .error e
        | .ok ⟨_, rest₃, h₃⟩ =>
          match g.expression room rest₃ with
          | .error e => .error e
          | .ok ⟨source, rest₄, h₄⟩ =>
            if bracketed then
              match g.symbol .rightParen .parenAfterLoopHeader rest₄ with
              | .error e => .error e
              | .ok ⟨_, rest₅, h₅⟩ => .ok ⟨(x, source), rest₅, by omega⟩
            else .ok ⟨(x, source), rest₄, by omega⟩

/-- The header of a function: its name, its parameters and the opening brace. -/
def functionHeader (g : Grammar) (ts : List Token) : Parse (String × List String) ts :=
  match g.name .functionName ts with
  | .error e => .error e
  | .ok ⟨x, rest, h⟩ =>
    match g.symbol .leftParen .parenAfterFunctionName rest with
    | .error e => .error e
    | .ok ⟨_, rest₁, h₁⟩ =>
      match g.parameters .rightParen rest₁ with
      | .error e => .error e
      | .ok ⟨ps, rest₂, h₂⟩ =>
        match g.symbol .rightParen .parenAfterParameters rest₂ with
        | .error e => .error e
        | .ok ⟨_, rest₃, h₃⟩ =>
          match g.symbol .leftBrace .braceBeforeBody rest₃ with
          | .error e => .error e
          | .ok ⟨_, rest₄, h₄⟩ => .ok ⟨(x, ps), rest₄, by omega⟩

/-- Whether the tokens after an opening brace begin an object, not a block. -/
def beginsObject : List Token → Bool
  | ⟨.name _, _⟩ :: t :: _ => isSymbol .colon t.kind
  | ⟨.literal (.text _), _⟩ :: t :: _ => isSymbol .colon t.kind
  | _ => false

/-! ### Statements -/

mutual

/-- A declaration or statement, one level down. -/
def declaration (g : Grammar) (room : Nat) (ts : List Token) : Parse Stmt ts :=
  match room with
  | 0 => g.tooDeep ts
  | room + 1 => statement g room ts
termination_by (room, 0, 0)

/-- A declaration or statement, by its first token. -/
def statement (g : Grammar) (room : Nat) (ts : List Token) : Parse Stmt ts :=
  match ts with
  | ⟨.keyword .letWord, _⟩ :: rest =>
    (g.variableDeclaration room rest).map fun p => ⟨p.value, p.rest, by grind [p.shorter]⟩
  | ⟨.keyword .fnWord, _⟩ :: rest =>
    match g.functionHeader rest with
    | .error e => .error e
    | .ok ⟨(x, ps), rest', h⟩ =>
      match blockBody g room [] rest' with
      | .error e => .error e
      | .ok ⟨body, rest'', h'⟩ => .ok ⟨.function x ps body, rest'', by simp; omega⟩
  | ⟨.keyword .ifWord, _⟩ :: rest =>
    match branches g room rest with
    | .error e => .error e
    | .ok ⟨(c, body, otherwise), rest', h⟩ =>
      .ok ⟨.branch c body otherwise, rest', by simp; omega⟩
  | ⟨.keyword .whileWord, _⟩ :: rest =>
    match g.expression room rest with
    | .error e => .error e
    | .ok ⟨c, rest', h⟩ =>
      match braced g .braceAfterWhile room rest' with
      | .error e => .error e
      | .ok ⟨body, rest'', h'⟩ => .ok ⟨.loop c body, rest'', by simp; omega⟩
  | ⟨.keyword .forWord, _⟩ :: rest =>
    match g.loopHeader room rest with
    | .error e => .error e
    | .ok ⟨(x, source), rest', h⟩ =>
      match braced g .braceAfterLoopHeader room rest' with
      | .error e => .error e
      | .ok ⟨body, rest'', h'⟩ => .ok ⟨.each x source body, rest'', by simp; omega⟩
  | ⟨.keyword .returnWord, _⟩ :: rest =>
    (g.returnStatement room rest).map fun p => ⟨p.value, p.rest, by grind [p.shorter]⟩
  | ⟨.keyword .breakWord, _⟩ :: rest =>
    (g.statementEnd rest).map fun p => ⟨.leaveLoop, p.rest, by grind [p.shorter]⟩
  | ⟨.keyword .continueWord, _⟩ :: rest =>
    (g.statementEnd rest).map fun p => ⟨.nextTurn, p.rest, by grind [p.shorter]⟩
  | ⟨.symbol .leftBrace, q⟩ :: rest =>
    if beginsObject rest then g.expressionStatement room (⟨.symbol .leftBrace, q⟩ :: rest)
    else
      match blockBody g room [] rest with
      | .error e => .error e
      | .ok ⟨body, rest', h⟩ => .ok ⟨.block body, rest', by simp; omega⟩
  | ts => g.expressionStatement room ts
termination_by (room, 4, 0)

/-- The rest of a statement after `if`. -/
def branches (g : Grammar) (room : Nat) (ts : List Token) :
    Parse (Expr × List Stmt × Otherwise) ts :=
  match g.expression room ts with
  | .error e => .error e
  | .ok ⟨c, rest, h⟩ =>
    match braced g .braceAfterIf room rest with
    | .error e => .error e
    | .ok ⟨body, rest₁, h₁⟩ =>
      match skipKeyword .elseWord rest₁ with
      | ⟨false, rest₂, h₂⟩ => .ok ⟨(c, body, .nothing), rest₂, by omega⟩
      | ⟨true, rest₂, h₂⟩ =>
        match skipKeyword .ifWord rest₂ with
        | ⟨false, rest₃, h₃⟩ =>
          match braced g .braceAfterElse room rest₃ with
          | .error e => .error e
          | .ok ⟨body', rest₄, h₄⟩ => .ok ⟨(c, body, .block body'), rest₄, by omega⟩
        | ⟨true, rest₃, h₃⟩ =>
          match room with
          | 0 => g.tooDeep rest₃
          | room + 1 =>
            match branches g room rest₃ with
            | .error e => .error e
            | .ok ⟨(c', body', otherwise), rest₄, h₄⟩ =>
              .ok ⟨(c, body, .branch c' body' otherwise), rest₄, by omega⟩
termination_by (room, 3, 0)

/-- Statements in braces. -/
def braced (g : Grammar) (what : Expectation) (room : Nat) (ts : List Token) :
    Parse (List Stmt) ts :=
  match g.symbol .leftBrace what ts with
  | .error e => .error e
  | .ok ⟨_, rest, h⟩ =>
    match blockBody g room [] rest with
    | .error e => .error e
    | .ok ⟨body, rest', h'⟩ => .ok ⟨body, rest', by omega⟩
termination_by (room, 2, 0)

/-- Statements up to a closing brace; `done` in reverse. -/
def blockBody (g : Grammar) (room : Nat) (done : List Stmt) (ts : List Token) :
    Parse (List Stmt) ts :=
  match ts with
  | [] => g.fail .braceAfterBlock []
  | t :: rest =>
    if isSymbol .rightBrace t.kind then .ok ⟨done.reverse, rest, by simp⟩
    else
      match declaration g room (t :: rest) with
      | .error e => .error e
      | .ok ⟨s, rest', h⟩ =>
        match blockBody g room (s :: done) rest' with
        | .error e => .error e
        | .ok ⟨body, rest'', h'⟩ => .ok ⟨body, rest'', by omega⟩
termination_by (room, 1, ts.length)
decreasing_by all_goals grind

end

/-- Statements up to the end of the tokens; `done` in reverse. -/
def declarations (g : Grammar) (done : List Stmt) (ts : List Token) :
    Except ParseError Code :=
  match ts with
  | [] => .ok done.reverse
  | t :: rest =>
    match g.declaration g.limit (t :: rest) with
    | .error e => .error e
    | .ok ⟨s, rest', _⟩ => declarations g (s :: done) rest'
termination_by ts.length
decreasing_by assumption

/-- Whether a token ends the text. -/
def endsText : Token → Bool
  | ⟨.endOfText, _⟩ => true
  | _ => false

/-- The tokens before the first end of text. -/
def body (tokens : List Token) : List Token := tokens.takeWhile (!endsText ·)

/-- The limit, with the line of the first end of text; without one that of the
last token, and the first line if there are no tokens. -/
def ofTokens (limit : Nat) (tokens : List Token) : Grammar :=
  match tokens.find? endsText, tokens.getLast? with
  | some t, _ => ⟨limit, t.position.line⟩
  | none, some t => ⟨limit, t.position.line⟩
  | none, none => ⟨limit, 1⟩

end Grammar

/-- The nesting levels allowed where nothing else is said. -/
def defaultNesting : Nat := 128

/-- The script written by a token list, of limited nesting. -/
def Code.parse (limit : Nat) (tokens : List Token) : Except ParseError Code :=
  (Grammar.ofTokens limit tokens).declarations [] (Grammar.body tokens)

/-- The single expression written by a token list, of limited nesting. -/
def Expr.parse (limit : Nat) (tokens : List Token) : Except ParseError Expr :=
  let g := Grammar.ofTokens limit tokens
  match g.expression limit (Grammar.body tokens) with
  | .error e => .error e
  | .ok ⟨e, [], _⟩ => .ok e
  | .ok ⟨_, t :: rest, _⟩ => g.stray (t :: rest)

end MockupStudio.Script
