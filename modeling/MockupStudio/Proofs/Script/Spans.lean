/-
What the nodes of a syntax tree take of the tokens.

* `Mark`, `Expr.marks`, `Stmt.marks`, `Code.marks`: the names, constants and
  operators of a tree in source order;
* `ReadOff`: tokens from which just such marks can be read;
* `Spans`: the tokens of a tree, node by node, with every pair of parentheses
  and with what an operator asks of operands that have none;
* `readOff_of_spans`: the tokens of a tree show its marks.
-/
import MockupStudio.Proofs.Script.Rules
import MockupStudio.Proofs.Script.Printing

namespace MockupStudio.Script

/-! ### What is read off a tree -/

/-- What is written out at a node. -/
inductive Mark where
  | name (text : String)
  | literal (value : Literal)
  /-- The key of a property. -/
  | key (text : String)
  | unary (op : UnaryOp)
  | binary (op : BinaryOp)
  /-- The opening of a lambda without parameters. -/
  | opener

/-- The opening of a lambda: its parameters, if there are any. -/
def openingMarks : List String → List Mark
  | [] => [.opener]
  | x :: xs => .name x :: xs.map .name

mutual

/-- The marks of an expression in source order. -/
def Expr.marks : Expr → List Mark
  | .literal l => [.literal l]
  | .name x => [.name x]
  | .binary op left right => left.marks ++ .binary op :: right.marks
  | .unary op operand => .unary op :: operand.marks
  | .call callee arguments => callee.marks ++ Expr.listMarks arguments
  | .index base key => base.marks ++ key.marks
  | .member base key => base.marks ++ [.name key]
  | .array items => Expr.listMarks items
  | .object members => Expr.memberMarks members
  | .lambda parameters body => openingMarks parameters ++ body.marks

def Expr.listMarks : List Expr → List Mark
  | [] => []
  | e :: es => e.marks ++ Expr.listMarks es

def Expr.memberMarks : List (String × Expr) → List Mark
  | [] => []
  | (key, e) :: ms => .key key :: (e.marks ++ Expr.memberMarks ms)

end

mutual

/-- The marks of a statement in source order; a variable that is declared
without a value shows its name alone. -/
def Stmt.marks : Stmt → List Mark
  | .expr e => e.marks
  | .declare x value => .name x :: value.elim [] Expr.marks
  | .assign x e => .name x :: e.marks
  | .block body => Code.marks body
  | .branch condition body otherwise =>
    condition.marks ++ (Code.marks body ++ otherwise.marks)
  | .loop condition body => condition.marks ++ Code.marks body
  | .each item source body => .name item :: (source.marks ++ Code.marks body)
  | .function x parameters body => .name x :: (parameters.map .name ++ Code.marks body)
  | .result value => value.elim [] Expr.marks
  | .leaveLoop | .nextTurn => []

def Otherwise.marks : Otherwise → List Mark
  | .nothing => []
  | .block body => Code.marks body
  | .branch condition body otherwise =>
    condition.marks ++ (Code.marks body ++ otherwise.marks)

/-- The marks of statements in source order. -/
def Code.marks : Code → List Mark
  | [] => []
  | s :: rest => s.marks ++ Code.marks rest

end

/-! ### What is read off tokens -/

/-- A token displays a mark: a name or constant is itself, and may be a key as its
text; a symbol is an operator that it stands for. -/
inductive Displays : Token.Kind → Mark → Prop where
  | name : Displays (.name x) (.name x)
  | literal : Displays (.literal l) (.literal l)
  | nameKey : Displays (.name x) (.key x)
  | textKey : Displays (.literal (.text s)) (.key s)
  | intKey : Displays (.literal (.int n)) (.key (Decimal.integer n.toInt))
  | unary (hop : UnaryOp.ofSymbol? m = some op) : Displays (.symbol m) (.unary op)
  | binary (hop : BinaryOp.ofSymbol? m = some op) : Displays (.symbol m) (.binary op)

/-- Whether a token is a keyword, or a symbol that is no operator. -/
def Token.Kind.isSilent : Token.Kind → Bool
  | .keyword _ => true
  | .symbol m => (UnaryOp.ofSymbol? m).isNone && (BinaryOp.ofSymbol? m).isNone
  | _ => false

/-- Marks are read off tokens one by one and in order, silent tokens passed
over. Only the bars that open a lambda without parameters are no operator. -/
inductive ReadOff : List Token.Kind → List Mark → Prop where
  | nil : ReadOff [] []
  | silent (hkind : kind.isSilent) (h : ReadOff kinds marks) : ReadOff (kind :: kinds) marks
  | shown (hmark : Displays kind mark) (h : ReadOff kinds marks) :
    ReadOff (kind :: kinds) (mark :: marks)
  | opener (h : ReadOff kinds marks) : ReadOff (.symbol .either :: kinds) (.opener :: marks)
  | bars (h : ReadOff kinds marks) :
    ReadOff (.symbol .pipe :: .symbol .pipe :: kinds) (.opener :: marks)

namespace ReadOff

variable {kinds kinds' : List Token.Kind} {marks marks' : List Mark}

lemma append (h : ReadOff kinds marks) (h' : ReadOff kinds' marks') :
    ReadOff (kinds ++ kinds') (marks ++ marks') := by
  induction h with
  | nil => exact h'
  | silent hkind _ ih => exact .silent hkind ih
  | shown hmark _ ih => exact .shown hmark ih
  | opener _ ih => exact .opener ih
  | bars _ ih => exact .bars ih

/-- A silent token after what is read off adds nothing. -/
lemma concat_silent {kind : Token.Kind} (h : ReadOff kinds marks) (hkind : kind.isSilent) :
    ReadOff (kinds ++ [kind]) marks := by
  simpa using h.append (.silent hkind .nil)

lemma inBraces (h : ReadOff kinds marks) : ReadOff (inBraces kinds) marks :=
  .silent rfl (h.concat_silent rfl)

end ReadOff

/-! ### The tokens of a tree -/

/-- An expression binds at least so tightly: it is wrapped in parentheses of its
own, or no looser operator is its outermost part. -/
def AtLeast (least : Nat) (wrapped : Bool) (e : Expr) : Prop :=
  wrapped = false → ∀ op left right, e = .binary op left right → least ≤ op.precedence

/-- A token that may be missing. -/
inductive Optional (kind : Token.Kind) : List Token.Kind → Prop where
  | missing : Optional kind []
  | there : Optional kind [kind]

/-- Names with commas between them. -/
inductive Listed : List String → List Token.Kind → Prop where
  | nil : Listed [] []
  | one : Listed [x] [.name x]
  | more (h : Listed xs kinds) : Listed (x :: xs) (.name x :: .symbol .comma :: kinds)

/-- Parts of a syntax tree. -/
inductive Piece where
  /-- An expression, in parentheses of its own or not. -/
  | expr (wrapped : Bool) (e : Expr)
  /-- Arguments of a call or items of an array. -/
  | list (es : List Expr)
  | members (ms : List (String × Expr))
  | stmt (s : Stmt)
  /-- What follows the word `if`. -/
  | branches (condition : Expr) (body : List Stmt) (otherwise : Otherwise)
  | code (body : Code)

/-- The marks of a part. -/
def Piece.marks : Piece → List Mark
  | expr _ e => e.marks
  | list es => Expr.listMarks es
  | members ms => Expr.memberMarks ms
  | stmt s => s.marks
  | branches condition body otherwise =>
    condition.marks ++ (Code.marks body ++ otherwise.marks)
  | code body => Code.marks body

/-- The tokens of a part of a tree. An expression is wrapped if its tokens are
those of an expression between parentheses. An operator takes a left operand that
binds as tightly as itself and a right one that binds more tightly; what a sign
stands before, and what calls, indexes and members follow, is no operator without
parentheses. -/
inductive Spans : Piece → List Token.Kind → Prop where
  | parens (h : Spans (.expr wrapped e) kinds) :
    Spans (.expr true e) (.symbol .leftParen :: (kinds ++ [.symbol .rightParen]))
  | literal : Spans (.expr false (.literal l)) [.literal l]
  | name : Spans (.expr false (.name x)) [.name x]
  | binary (hop : BinaryOp.ofSymbol? m = some op)
    (hleft : AtLeast op.precedence wrapped left)
    (hright : AtLeast (op.precedence + 1) wrapped' right)
    (h : Spans (.expr wrapped left) kinds) (h' : Spans (.expr wrapped' right) kinds') :
    Spans (.expr false (.binary op left right)) (kinds ++ .symbol m :: kinds')
  | unary (hop : UnaryOp.ofSymbol? m = some op) (htight : AtLeast 7 wrapped e)
    (h : Spans (.expr wrapped e) kinds) :
    Spans (.expr false (.unary op e)) (.symbol m :: kinds)
  | call (htight : AtLeast 7 wrapped callee) (h : Spans (.expr wrapped callee) kinds)
    (hes : Spans (.list es) kinds') :
    Spans (.expr false (.call callee es))
      (kinds ++ .symbol .leftParen :: (kinds' ++ [.symbol .rightParen]))
  | index (htight : AtLeast 7 wrapped base) (h : Spans (.expr wrapped base) kinds)
    (h' : Spans (.expr wrapped' key) kinds') :
    Spans (.expr false (.index base key))
      (kinds ++ .symbol .leftBracket :: (kinds' ++ [.symbol .rightBracket]))
  | member (htight : AtLeast 7 wrapped base) (h : Spans (.expr wrapped base) kinds) :
    Spans (.expr false (.member base key)) (kinds ++ [.symbol .dot, .name key])
  | array (hes : Spans (.list es) kinds) :
    Spans (.expr false (.array es)) (.symbol .leftBracket :: (kinds ++ [.symbol .rightBracket]))
  | object (hms : Spans (.members ms) kinds) :
    Spans (.expr false (.object ms)) (.symbol .leftBrace :: (kinds ++ [.symbol .rightBrace]))
  | thunk (h : Spans (.expr wrapped e) kinds) :
    Spans (.expr false (.lambda [] e)) (.symbol .either :: kinds)
  | lambda (hxs : Listed xs kinds) (h : Spans (.expr wrapped e) kinds') :
    Spans (.expr false (.lambda xs e))
      (.symbol .pipe :: (kinds ++ .symbol .pipe :: kinds'))
  | noItems : Spans (.list []) []
  | lastItem (h : Spans (.expr wrapped e) kinds) : Spans (.list [e]) kinds
  | item (h : Spans (.expr wrapped e) kinds) (hes : Spans (.list es) kinds') :
    Spans (.list (e :: es)) (kinds ++ .symbol .comma :: kinds')
  | noMembers : Spans (.members []) []
  | lastMember (hkey : Displays kind (.key key)) (h : Spans (.expr wrapped e) kinds) :
    Spans (.members [(key, e)]) (kind :: .symbol .colon :: kinds)
  | another (hkey : Displays kind (.key key)) (h : Spans (.expr wrapped e) kinds)
    (hms : Spans (.members ms) kinds') :
    Spans (.members ((key, e) :: ms))
      (kind :: .symbol .colon :: (kinds ++ .symbol .comma :: kinds'))
  | value (h : Spans (.expr wrapped e) kinds) (hend : Optional (.symbol .semicolon) ending) :
    Spans (.stmt (.expr e)) (kinds ++ ending)
  | declareNull (hend : Optional (.symbol .semicolon) ending) :
    Spans (.stmt (.declare x none)) (.keyword .letWord :: .name x :: ending)
  | declare (h : Spans (.expr wrapped e) kinds) (hend : Optional (.symbol .semicolon) ending) :
    Spans (.stmt (.declare x (some e)))
      (.keyword .letWord :: .name x :: .symbol .assign :: (kinds ++ ending))
  | assign (hx : Spans (.expr wrapped (.name x)) kinds) (h : Spans (.expr wrapped' e) kinds')
    (hend : Optional (.symbol .semicolon) ending) :
    Spans (.stmt (.assign x e)) (kinds ++ .symbol .assign :: (kinds' ++ ending))
  | block (h : Spans (.code body) kinds) : Spans (.stmt (.block body)) (inBraces kinds)
  | branch (h : Spans (.branches condition body otherwise) kinds) :
    Spans (.stmt (.branch condition body otherwise)) (.keyword .ifWord :: kinds)
  | loop (h : Spans (.expr wrapped condition) kinds) (hbody : Spans (.code body) kinds') :
    Spans (.stmt (.loop condition body)) (.keyword .whileWord :: (kinds ++ inBraces kinds'))
  | each (hlet : Optional (.keyword .letWord) opening) (h : Spans (.expr wrapped source) kinds)
    (hbody : Spans (.code body) kinds') :
    Spans (.stmt (.each x source body))
      (.keyword .forWord :: (opening ++ .name x :: .keyword .inWord :: (kinds ++ inBraces kinds')))
  | eachInParens (hlet : Optional (.keyword .letWord) opening)
    (h : Spans (.expr wrapped source) kinds) (hbody : Spans (.code body) kinds') :
    Spans (.stmt (.each x source body))
      (.keyword .forWord :: .symbol .leftParen :: (opening ++ .name x :: .keyword .inWord ::
        (kinds ++ .symbol .rightParen :: inBraces kinds')))
  | function (hxs : Listed xs kinds) (hbody : Spans (.code body) kinds') :
    Spans (.stmt (.function x xs body))
      (.keyword .fnWord :: .name x :: .symbol .leftParen ::
        (kinds ++ .symbol .rightParen :: inBraces kinds'))
  | resultNull (hend : Optional (.symbol .semicolon) ending) :
    Spans (.stmt (.result none)) (.keyword .returnWord :: ending)
  | result (h : Spans (.expr wrapped e) kinds) (hend : Optional (.symbol .semicolon) ending) :
    Spans (.stmt (.result (some e))) (.keyword .returnWord :: (kinds ++ ending))
  | leaveLoop (hend : Optional (.symbol .semicolon) ending) :
    Spans (.stmt .leaveLoop) (.keyword .breakWord :: ending)
  | nextTurn (hend : Optional (.symbol .semicolon) ending) :
    Spans (.stmt .nextTurn) (.keyword .continueWord :: ending)
  | noElse (h : Spans (.expr wrapped condition) kinds) (hbody : Spans (.code body) kinds') :
    Spans (.branches condition body .nothing) (kinds ++ inBraces kinds')
  | elseBlock (h : Spans (.expr wrapped condition) kinds) (hbody : Spans (.code body) kinds')
    (helse : Spans (.code body') kinds'') :
    Spans (.branches condition body (.block body'))
      (kinds ++ (inBraces kinds' ++ .keyword .elseWord :: inBraces kinds''))
  | elseIf (h : Spans (.expr wrapped condition) kinds) (hbody : Spans (.code body) kinds')
    (helse : Spans (.branches condition' body' otherwise) kinds'') :
    Spans (.branches condition body (.branch condition' body' otherwise))
      (kinds ++ (inBraces kinds' ++ .keyword .elseWord :: .keyword .ifWord :: kinds''))
  | noCode : Spans (.code []) []
  | next (h : Spans (.stmt s) kinds) (hcode : Spans (.code code) kinds') :
    Spans (.code (s :: code)) (kinds ++ kinds')

/-! ### The tokens of a tree show its marks -/

variable {kinds kinds' : List Token.Kind} {marks : List Mark}

lemma Listed.readOff {xs : List String} (h : Listed xs kinds) :
    ReadOff kinds (xs.map .name) := by
  induction h with
  | nil => exact .nil
  | one => exact .shown .name .nil
  | more _ ih => exact .shown .name (.silent rfl ih)

lemma readOff_bars {xs : List String} (hxs : Listed xs kinds) (h : ReadOff kinds' marks) :
    ReadOff (.symbol .pipe :: (kinds ++ .symbol .pipe :: kinds'))
      (openingMarks xs ++ marks) := by
  have hbar : ReadOff (.symbol .pipe :: kinds') marks := .silent rfl h
  have hread := hxs.readOff.append hbar
  cases hxs with
  | nil => exact .bars h
  | one => exact .silent rfl hread
  | more => exact .silent rfl hread

lemma ReadOff.optional {kind : Token.Kind} {more : List Token.Kind} (h : ReadOff kinds marks)
    (hmore : Optional kind more) (hkind : kind.isSilent) : ReadOff (kinds ++ more) marks := by
  cases hmore with
  | missing => simpa using h
  | there => exact h.concat_silent hkind

lemma readOff_optional {kind : Token.Kind} {more : List Token.Kind}
    (hmore : Optional kind more) (hkind : kind.isSilent) : ReadOff more [] :=
  ReadOff.nil.optional hmore hkind

/-- The tokens of a part of a tree show its marks, each of them once and in
order. -/
theorem readOff_of_spans {piece : Piece} (h : Spans piece kinds) :
    ReadOff kinds piece.marks := by
  induction h with
  | parens _ ih => exact .silent rfl (ih.concat_silent rfl)
  | literal => exact .shown .literal .nil
  | name => exact .shown .name .nil
  | binary hop _ _ _ _ ih ih' => exact ih.append (.shown (.binary hop) ih')
  | unary hop _ _ ih => exact .shown (.unary hop) ih
  | call _ _ _ ih ihes => exact ih.append (.silent rfl (ihes.concat_silent rfl))
  | index _ _ _ ih ih' => exact ih.append (.silent rfl (ih'.concat_silent rfl))
  | member _ _ ih => exact ih.append (.silent rfl (.shown .name .nil))
  | array _ ih => exact .silent rfl (ih.concat_silent rfl)
  | object _ ih => exact .silent rfl (ih.concat_silent rfl)
  | thunk _ ih => exact .opener ih
  | lambda hxs _ ih => exact readOff_bars hxs ih
  | noItems => exact .nil
  | lastItem _ ih => simpa [Piece.marks, Expr.listMarks] using ih
  | item _ _ ih ihes => exact ih.append (.silent rfl ihes)
  | noMembers => exact .nil
  | lastMember hkey _ ih =>
    exact .shown hkey (.silent rfl (by simpa [Expr.memberMarks, Piece.marks] using ih))
  | another hkey _ _ ih ihms => exact .shown hkey (.silent rfl (ih.append (.silent rfl ihms)))
  | value _ hend ih => exact ih.optional hend rfl
  | declareNull hend => exact .silent rfl (.shown .name (readOff_optional hend rfl))
  | declare _ hend ih => exact .silent rfl (.shown .name (.silent rfl (ih.optional hend rfl)))
  | assign _ _ hend ihx ih => exact ihx.append (.silent rfl (ih.optional hend rfl))
  | block _ ih => exact ih.inBraces
  | branch _ ih => exact .silent rfl ih
  | loop _ _ ih ihbody => exact .silent rfl (ih.append ihbody.inBraces)
  | each hlet _ _ ih ihbody =>
    exact .silent rfl ((readOff_optional hlet rfl).append
      (.shown .name (.silent rfl (ih.append ihbody.inBraces))))
  | eachInParens hlet _ _ ih ihbody =>
    exact .silent rfl (.silent rfl ((readOff_optional hlet rfl).append
      (.shown .name (.silent rfl (ih.append (.silent rfl ihbody.inBraces))))))
  | function hxs _ ihbody =>
    exact .silent rfl (.shown .name (.silent rfl
      (hxs.readOff.append (.silent rfl ihbody.inBraces))))
  | resultNull hend => exact .silent rfl (readOff_optional hend rfl)
  | result _ hend ih => exact .silent rfl (ih.optional hend rfl)
  | leaveLoop hend => exact .silent rfl (readOff_optional hend rfl)
  | nextTurn hend => exact .silent rfl (readOff_optional hend rfl)
  | noElse _ _ ih ihbody =>
    exact ih.append (by simpa [Otherwise.marks, Piece.marks] using ihbody.inBraces)
  | elseBlock _ _ _ ih ihbody ihelse =>
    exact ih.append (ihbody.inBraces.append (.silent rfl ihelse.inBraces))
  | elseIf _ _ _ ih ihbody ihelse =>
    exact ih.append (ihbody.inBraces.append (.silent rfl (.silent rfl ihelse)))
  | noCode => exact .nil
  | next _ _ ih ihcode => exact ih.append ihcode

end MockupStudio.Script
