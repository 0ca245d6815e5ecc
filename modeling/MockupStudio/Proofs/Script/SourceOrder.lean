/-
The parser drops, repeats and reorders nothing.

* `Phrase.Stands`: the tokens that a rule of the grammar takes are those of
  the piece of the tree that it gives;
* `found_of_reads`: so it is for every rule, by induction on the reading;
* `Code.readOff_of_parse`: from the tokens of a parsed script, up to the first
  end of text, just the marks of its tree are read off, and operators stand
  with their operands as their precedence asks.
-/
import MockupStudio.Proofs.Script.Reading
import MockupStudio.Proofs.Script.Spans

namespace MockupStudio.Script

open Grammar

/-! ### How tightly an expression binds -/

namespace AtLeast

variable {least : Nat} {op : BinaryOp} {wrapped : Bool} {e : Expr}

lemma of_wrapped (least : Nat) (e : Expr) : AtLeast least true e := nofun

lemma binary (h : least ≤ op.precedence) (wrapped : Bool) (left right : Expr) :
    AtLeast least wrapped (.binary op left right) := by
  rintro - _ _ _ ⟨⟩
  exact h

/-- No operator binds so tightly as a sign. -/
lemma of_seven (h : AtLeast 7 wrapped e) (least : Nat) : AtLeast least wrapped e := by
  intro hbare op left right he
  have hseven := h hbare op left right he
  have hsix : op.precedence ≤ 6 := by cases op <;> decide
  omega

end AtLeast

/-- No operator that comes next takes an expression apart: either it stands in
parentheses, or its outermost operator binds as tightly as the next. -/
def Rests (wrapped : Bool) (e : Expr) (ts : List Token) : Prop :=
  wrapped = false → ∀ op left right, e = .binary op left right → ¬ Binds (op.precedence + 1) ts

lemma AtLeast.rests {wrapped : Bool} {e : Expr} (h : AtLeast 7 wrapped e) (ts : List Token) :
    Rests wrapped e ts := by
  rintro hbare op left right he ⟨-, -, -, op', -, -, hle⟩
  have hseven := h hbare op left right he
  have hsix : op'.precedence ≤ 6 := by cases op' <;> decide
  omega

/-- What rests before an operator is a left operand of it. -/
lemma Rests.atLeast {wrapped : Bool} {e : Expr} {m : Symbol} {op : BinaryOp} {q : Position}
    {ts : List Token} (h : Rests wrapped e (⟨.symbol m, q⟩ :: ts))
    (hop : BinaryOp.ofSymbol? m = some op) : AtLeast op.precedence wrapped e := by
  intro hbare op' left right he
  by_cases hle : op.precedence ≤ op'.precedence
  · exact hle
  · exact absurd ⟨m, q, ts, op, rfl, hop, by omega⟩ (h hbare op' left right he)

namespace Grammar

/-! ### What a rule takes -/

/-- The kinds of tokens. -/
abbrev kinds (ts : List Token) : List Token.Kind := ts.map Token.kind

/-- The tokens that a rule takes are those of what it gives. Operators and links
go on with the tokens of the expression before them. -/
def Phrase.Stands (used : List Token.Kind) (ts rest : List Token) : Phrase → Prop
  | .expression e => ∃ wrapped, Spans (.expr wrapped e) used
  | .precedence least e => ¬ Binds least rest ∧
    ∃ wrapped, AtLeast least wrapped e ∧ Spans (.expr wrapped e) used
  | .operators least left e => ¬ Binds least rest ∧
    ∀ wrapped front, AtLeast least wrapped left → Rests wrapped left ts →
      Spans (.expr wrapped left) front →
      ∃ wrapped', AtLeast least wrapped' e ∧ Spans (.expr wrapped' e) (front ++ used)
  | .unary e | .chain e | .primary e =>
    ∃ wrapped, AtLeast 7 wrapped e ∧ Spans (.expr wrapped e) used
  | .links base e => ∀ wrapped front, AtLeast 7 wrapped base → Spans (.expr wrapped base) front →
      ∃ wrapped', AtLeast 7 wrapped' e ∧ Spans (.expr wrapped' e) (front ++ used)
  | .callArguments es =>
    ∃ inner, used = inner ++ [.symbol .rightParen] ∧ Spans (.list es) inner
  | .arguments es => Spans (.list es) used
  | .items es => ∃ inner, used = inner ++ [.symbol .rightBracket] ∧ Spans (.list es) inner
  | .members ms => ∃ inner, used = inner ++ [.symbol .rightBrace] ∧ Spans (.members ms) inner
  | .declaration s | .statement s => Spans (.stmt s) used
  | .branches condition body otherwise => Spans (.branches condition body otherwise) used
  | .block body => ∃ inner, used = inner ++ [.symbol .rightBrace] ∧ Spans (.code body) inner

/-- A rule takes the front of the tokens, as it should. -/
def Phrase.Found (ts rest : List Token) (phrase : Phrase) : Prop :=
  ∃ used, kinds ts = used ++ kinds rest ∧ phrase.Stands used ts rest

/-! ### Parts without expressions -/

lemma Ends.optional {ts rest : List Token} (h : Ends ts rest) :
    ∃ ending, kinds ts = ending ++ kinds rest ∧ Optional (.symbol .semicolon) ending := by
  cases h with
  | atEnd => exact ⟨[], rfl, .missing⟩
  | semicolon => exact ⟨_, rfl, .there⟩
  | beforeBrace => exact ⟨[], rfl, .missing⟩

lemma Perhaps.optional {kind : Token.Kind} {b : Bool} {ts rest : List Token}
    (h : Perhaps kind b ts rest) :
    ∃ taken, kinds ts = taken ++ kinds rest ∧ Optional kind taken := by
  cases h with
  | there => exact ⟨_, rfl, .there⟩
  | missing => exact ⟨[], rfl, .missing⟩

lemma Names.listed {xs : List String} {ts rest : List Token} (h : Names xs ts rest) :
    ∃ taken, kinds ts = taken ++ kinds rest ∧ Listed xs taken := by
  induction h with
  | none => exact ⟨[], rfl, .nil⟩
  | one => exact ⟨_, rfl, .one⟩
  | more _ ih =>
    obtain ⟨taken, hts, hlisted⟩ := ih
    exact ⟨_, by simp [hts], .more hlisted⟩

lemma Key.displays {key : String} {t : Token} (h : Key key t) : Displays t.kind (.key key) := by
  cases h with
  | name => exact .nameKey
  | text => exact .textKey
  | int => exact .intKey

/-! ### Every rule takes the tokens of what it gives -/

section Rules

variable {ts ts₁ ts₂ ts₃ ts₄ mid rest : List Token}

/-- A right operand is read up to an operator that is no tighter than the one
before it, so the operation rests where it ends. -/
lemma found_operator {m : Symbol} {op : BinaryOp} {least : Nat} {q : Position}
    {left right e : Expr} (hop : BinaryOp.ofSymbol? m = some op) (hleast : least ≤ op.precedence)
    (hright : (Phrase.precedence (op.precedence + 1) right).Found ts mid)
    (hmore : (Phrase.operators least (.binary op left right) e).Found mid rest) :
    (Phrase.operators least left e).Found (⟨.symbol m, q⟩ :: ts) rest := by
  obtain ⟨used, hts, hnext, wrapped', htight, h⟩ := hright
  obtain ⟨used', hmid, hbinds, hmore⟩ := hmore
  refine ⟨.symbol m :: (used ++ used'), by simp [hts, hmid], hbinds, ?_⟩
  intro wrapped front _ hrests hfront
  have hnode := Spans.binary hop (hrests.atLeast hop) htight hfront h
  have hrests' : Rests false (.binary op left right) mid := by
    rintro - _ _ _ ⟨⟩
    exact hnext
  obtain ⟨wrapped'', hleast', he⟩ := hmore false _ (.binary hleast _ _ _) hrests' hnode
  exact ⟨wrapped'', hleast', by simpa using he⟩

/-- The header of a loop has both parentheses or none. -/
lemma found_each {bracketed b : Bool} {x : String} {source : Expr} {body : List Stmt}
    {q q' q'' r : Position} (hopen : Perhaps (.symbol .leftParen) bracketed ts ts₁)
    (hlet : Perhaps (.keyword .letWord) b ts₁ ts₂)
    (hhead : ts₂ = ⟨.name x, q'⟩ :: ⟨.keyword .inWord, q''⟩ :: ts₃)
    (hclose : Perhaps (.symbol .rightParen) bracketed ts₄ (⟨.symbol .leftBrace, r⟩ :: mid))
    (hsource : (Phrase.expression source).Found ts₃ ts₄)
    (hbody : (Phrase.block body).Found mid rest) :
    (Phrase.statement (.each x source body)).Found (⟨.keyword .forWord, q⟩ :: ts) rest := by
  subst hhead
  obtain ⟨lets, hts₁, hlets⟩ := hlet.optional
  obtain ⟨used, hts₃, wrapped, h⟩ := hsource
  obtain ⟨_, hmid, inner, rfl, hbody⟩ := hbody
  cases hopen with
  | there =>
    cases hclose with
    | there =>
      exact ⟨.keyword .forWord :: .symbol .leftParen :: (lets ++ .name x :: .keyword .inWord ::
        (used ++ .symbol .rightParen :: inBraces inner)), by simp [hts₁, hts₃, hmid, inBraces],
        .eachInParens hlets h hbody⟩
  | missing =>
    cases hclose with
    | missing =>
      exact ⟨.keyword .forWord :: (lets ++ .name x :: .keyword .inWord ::
        (used ++ inBraces inner)), by simp [hts₁, hts₃, hmid, inBraces], .each hlets h hbody⟩

lemma found_of_reads {room : Nat} {phrase : Phrase} (h : Reads room phrase ts rest) :
    phrase.Found ts rest := by
  -- most rules lay the tokens of their parts side by side; what an operator may
  -- stand between is settled where it is read
  induction h with
  | expression _ ih =>
    obtain ⟨used, hts, -, wrapped, -, h⟩ := ih
    exact ⟨used, hts, wrapped, h⟩
  | precedence _ _ ih ihmore =>
    obtain ⟨used, hts, wrapped, htight, h⟩ := ih
    obtain ⟨used', hmid, hbinds, hmore⟩ := ihmore
    refine ⟨used ++ used', by simp [hts, hmid], hbinds, ?_⟩
    exact hmore wrapped used (AtLeast.of_seven htight _) (AtLeast.rests htight _) h
  | noOperator hbinds =>
    exact ⟨[], rfl, hbinds, fun wrapped front hleast _ h => ⟨wrapped, hleast, by simpa using h⟩⟩
  | operator hop hleast _ _ ih ihmore => exact found_operator hop hleast ih ihmore
  | noSign _ ih => exact ih
  | sign hop _ ih =>
    obtain ⟨used, hts, wrapped, htight, h⟩ := ih
    exact ⟨.symbol _ :: used, by simp [hts], false, nofun, .unary hop htight h⟩
  | chain _ _ ih ihmore =>
    obtain ⟨used, hts, wrapped, htight, h⟩ := ih
    obtain ⟨used', hmid, hmore⟩ := ihmore
    exact ⟨used ++ used', by simp [hts, hmid], hmore wrapped used htight h⟩
  | noLink => exact ⟨[], rfl, fun wrapped front htight h => ⟨wrapped, htight, by simpa using h⟩⟩
  | call _ _ ihes ihmore =>
    obtain ⟨_, hts, inner, rfl, hes⟩ := ihes
    obtain ⟨used, hmid, hmore⟩ := ihmore
    refine ⟨.symbol .leftParen :: (inner ++ .symbol .rightParen :: used), by simp [hts, hmid], ?_⟩
    intro wrapped front htight hfront
    simpa using hmore false _ nofun (.call htight hfront hes)
  | @member _ _ key _ _ _ _ _ _ ihmore =>
    obtain ⟨used, hts, hmore⟩ := ihmore
    refine ⟨.symbol .dot :: .name key :: used, by simp [hts], ?_⟩
    intro wrapped front htight hfront
    simpa using hmore false _ nofun (.member htight hfront)
  | index _ _ ihkey ihmore =>
    obtain ⟨inner, hts, wrapped', hkey⟩ := ihkey
    obtain ⟨used, hmid, hmore⟩ := ihmore
    refine ⟨.symbol .leftBracket :: (inner ++ .symbol .rightBracket :: used),
      by simp [hts, hmid], ?_⟩
    intro wrapped front htight hfront
    simpa using hmore false _ nofun (.index htight hfront hkey)
  | noArguments => exact ⟨_, rfl, [], rfl, .noItems⟩
  | callArguments _ ih =>
    obtain ⟨used, hts, hes⟩ := ih
    exact ⟨used ++ [.symbol .rightParen], by simp [hts], used, rfl, hes⟩
  | @lastArgument _ e ts mid b rest _ hcomma ih =>
    obtain ⟨used, hts, wrapped, h⟩ := ih
    cases hcomma with
    | there => exact ⟨used ++ [Token.Kind.symbol .comma], by simp [hts], .item h .noItems⟩
    | missing => exact ⟨used, hts, .lastItem h⟩
  | argument _ _ ih ihmore =>
    obtain ⟨used, hts, wrapped, h⟩ := ih
    obtain ⟨used', hmid, hes⟩ := ihmore
    exact ⟨used ++ .symbol .comma :: used', by simp [hts, hmid], .item h hes⟩
  | literal => exact ⟨[_], rfl, false, nofun, .literal⟩
  | name => exact ⟨[_], rfl, false, nofun, .name⟩
  | parens _ ih =>
    obtain ⟨used, hts, wrapped, h⟩ := ih
    exact ⟨.symbol .leftParen :: (used ++ [.symbol .rightParen]), by simp [hts], true,
      .of_wrapped 7 _, .parens h⟩
  | array _ ih =>
    obtain ⟨_, hts, inner, rfl, hes⟩ := ih
    exact ⟨.symbol .leftBracket :: (inner ++ [.symbol .rightBracket]), by simp [hts], false,
      nofun, .array hes⟩
  | object _ ih =>
    obtain ⟨_, hts, inner, rfl, hms⟩ := ih
    exact ⟨.symbol .leftBrace :: (inner ++ [.symbol .rightBrace]), by simp [hts], false,
      nofun, .object hms⟩
  | thunk _ ih =>
    obtain ⟨used, hts, wrapped, h⟩ := ih
    exact ⟨.symbol .either :: used, by simp [hts], false, nofun, .thunk h⟩
  | lambda hxs _ ih =>
    obtain ⟨taken, hts, hlisted⟩ := hxs.listed
    obtain ⟨used, hmid, wrapped, h⟩ := ih
    exact ⟨.symbol .pipe :: (taken ++ .symbol .pipe :: used), by simp [hts, hmid], false, nofun,
      .lambda hlisted h⟩
  | noItems => exact ⟨[_], rfl, [], rfl, .noItems⟩
  | lastItem _ ih =>
    obtain ⟨used, hts, wrapped, h⟩ := ih
    exact ⟨used ++ [.symbol .rightBracket], by simp [hts], used, rfl, .lastItem h⟩
  | item _ _ ih ihmore =>
    obtain ⟨used, hts, wrapped, h⟩ := ih
    obtain ⟨_, hmid, inner, rfl, hes⟩ := ihmore
    exact ⟨used ++ .symbol .comma :: (inner ++ [.symbol .rightBracket]), by simp [hts, hmid],
      used ++ .symbol .comma :: inner, by simp, .item h hes⟩
  | noMembers => exact ⟨[_], rfl, [], rfl, .noMembers⟩
  | @lastMember _ t _ _ _ _ _ _ hkey _ ih =>
    obtain ⟨used, hts, wrapped, h⟩ := ih
    exact ⟨t.kind :: .symbol .colon :: (used ++ [.symbol .rightBrace]), by simp [hts],
      t.kind :: .symbol .colon :: used, by simp, .lastMember hkey.displays h⟩
  | @another _ t _ _ _ _ _ _ _ _ hkey _ _ ih ihmore =>
    obtain ⟨used, hts, wrapped, h⟩ := ih
    obtain ⟨_, hmid, inner, rfl, hms⟩ := ihmore
    exact ⟨t.kind :: .symbol .colon :: (used ++ .symbol .comma :: (inner ++ [.symbol .rightBrace])),
      by simp [hts, hmid], t.kind :: .symbol .colon :: (used ++ .symbol .comma :: inner), by simp,
      .another hkey.displays h hms⟩
  | declaration _ ih => exact ih
  | declareNull hend =>
    obtain ⟨ending, hts, hending⟩ := hend.optional
    exact ⟨.keyword .letWord :: .name _ :: ending, by simp [hts], .declareNull hending⟩
  | declare _ hend ih =>
    obtain ⟨used, hts, wrapped, h⟩ := ih
    obtain ⟨ending, hmid, hending⟩ := hend.optional
    exact ⟨.keyword .letWord :: .name _ :: .symbol .assign :: (used ++ ending),
      by simp [hts, hmid], .declare h hending⟩
  | function hxs _ ih =>
    obtain ⟨taken, hts, hlisted⟩ := hxs.listed
    obtain ⟨_, hmid, inner, rfl, hbody⟩ := ih
    exact ⟨.keyword .fnWord :: .name _ :: .symbol .leftParen ::
      (taken ++ .symbol .rightParen :: inBraces inner), by simp [hts, hmid, inBraces],
      .function hlisted hbody⟩
  | branch _ ih =>
    obtain ⟨used, hts, h⟩ := ih
    exact ⟨.keyword .ifWord :: used, by simp [hts], .branch h⟩
  | loop _ _ ih ihbody =>
    obtain ⟨used, hts, wrapped, h⟩ := ih
    obtain ⟨_, hmid, inner, rfl, hbody⟩ := ihbody
    exact ⟨.keyword .whileWord :: (used ++ inBraces inner), by simp [hts, hmid, inBraces],
      .loop h hbody⟩
  | each hopen hlet hhead _ hclose _ ih ihbody =>
    exact found_each hopen hlet hhead hclose ih ihbody
  | resultNull hend =>
    obtain ⟨ending, hts, hending⟩ := hend.optional
    exact ⟨.keyword .returnWord :: ending, by simp [hts], .resultNull hending⟩
  | result _ hend ih =>
    obtain ⟨used, hts, wrapped, h⟩ := ih
    obtain ⟨ending, hmid, hending⟩ := hend.optional
    exact ⟨.keyword .returnWord :: (used ++ ending), by simp [hts, hmid], .result h hending⟩
  | leaveLoop hend =>
    obtain ⟨ending, hts, hending⟩ := hend.optional
    exact ⟨.keyword .breakWord :: ending, by simp [hts], .leaveLoop hending⟩
  | nextTurn hend =>
    obtain ⟨ending, hts, hending⟩ := hend.optional
    exact ⟨.keyword .continueWord :: ending, by simp [hts], .nextTurn hending⟩
  | braces _ ih =>
    obtain ⟨_, hts, inner, rfl, hbody⟩ := ih
    exact ⟨inBraces inner, by simp [hts, inBraces], .block hbody⟩
  | value _ hend ih =>
    obtain ⟨used, hts, wrapped, h⟩ := ih
    obtain ⟨ending, hmid, hending⟩ := hend.optional
    exact ⟨used ++ ending, by simp [hts, hmid], .value h hending⟩
  | assign _ _ hend ihx ih =>
    obtain ⟨used, hts, wrapped, hx⟩ := ihx
    obtain ⟨used', hmid, wrapped', h⟩ := ih
    obtain ⟨ending, hmid', hending⟩ := hend.optional
    exact ⟨used ++ .symbol .assign :: (used' ++ ending), by simp [hts, hmid, hmid'],
      .assign hx h hending⟩
  | noElse _ _ ih ihbody =>
    obtain ⟨used, hts, wrapped, h⟩ := ih
    obtain ⟨_, hmid, inner, rfl, hbody⟩ := ihbody
    exact ⟨used ++ inBraces inner, by simp [hts, hmid, inBraces], .noElse h hbody⟩
  | elseBlock _ _ _ ih ihbody ihelse =>
    obtain ⟨used, hts, wrapped, h⟩ := ih
    obtain ⟨_, hmid, inner, rfl, hbody⟩ := ihbody
    obtain ⟨_, hmid', inner', rfl, helse⟩ := ihelse
    exact ⟨used ++ (inBraces inner ++ .keyword .elseWord :: inBraces inner'),
      by simp [hts, hmid, hmid', inBraces], .elseBlock h hbody helse⟩
  | elseIf _ _ _ ih ihbody ihelse =>
    obtain ⟨used, hts, wrapped, h⟩ := ih
    obtain ⟨_, hmid, inner, rfl, hbody⟩ := ihbody
    obtain ⟨used', hmid', helse⟩ := ihelse
    exact ⟨used ++ (inBraces inner ++ .keyword .elseWord :: .keyword .ifWord :: used'),
      by simp [hts, hmid, hmid', inBraces], .elseIf h hbody helse⟩
  | endBlock => exact ⟨[_], rfl, [], rfl, .noCode⟩
  | next _ _ ih ihmore =>
    obtain ⟨used, hts, h⟩ := ih
    obtain ⟨_, hmid, inner, rfl, hcode⟩ := ihmore
    exact ⟨used ++ (inner ++ [.symbol .rightBrace]), by simp [hts, hmid], used ++ inner, by simp,
      .next h hcode⟩

end Rules

lemma spans_of_readsAll {limit : Nat} {code : Code} {ts : List Token}
    (h : ReadsAll limit code ts) : Spans (.code code) (kinds ts) := by
  induction h with
  | nil => exact .noCode
  | cons hread _ ih =>
    obtain ⟨used, hts, h⟩ := found_of_reads hread
    rw [hts]
    exact .next h ih

end Grammar

/-- From the tokens of a parsed script, up to the first end of text, just the
marks of its tree are read off, one by one and in order; and node by node these
tokens are those of the tree, where every operator is an operand of another only
as precedence allows or in parentheses of its own. -/
theorem Code.readOff_of_parse {limit : Nat} {tokens : List Token} {code : Code}
    (h : Code.parse limit tokens = .ok code) :
    ReadOff ((body tokens).map Token.kind) code.marks ∧
      Spans (.code code) ((body tokens).map Token.kind) :=
  have hspans := spans_of_readsAll (Code.reads_of_parse h)
  ⟨readOff_of_spans hspans, hspans⟩

/-- A declaration without a value and an assignment, with a key in quotes,
parentheses and a lambda without parameters; a name follows the end of the text. -/
def mixedTokens : List Token :=
  List.map (⟨·, 1, 1⟩)
    [.keyword .letWord, .name "x", .symbol .semicolon, .name "x", .symbol .assign,
      .symbol .leftParen, .literal (.int 1), .symbol .plus, .literal .null, .symbol .rightParen,
      .symbol .star, .symbol .leftBrace, .literal (.text "k"), .symbol .colon, .symbol .either,
      .symbol .minus, .name "y", .symbol .comma, .symbol .rightBrace, .symbol .dot, .name "z",
      .endOfText, .name "w"]

/-- Its tree. -/
def mixedCode : Code :=
  [.declare "x" none,
    .assign "x" (.binary .mul (.binary .add (.literal (.int 1)) (.literal .null))
      (.member (.object [("k", .lambda [] (.unary .neg (.name "y")))]) "z"))]

theorem Code.readOff_mixedTokens :
    Code.parse 128 mixedTokens = .ok mixedCode ∧
      ReadOff ((body mixedTokens).map Token.kind)
        [.name "x", .name "x", .literal (.int 1), .binary .add, .literal .null, .binary .mul,
          .key "k", .opener, .unary .neg, .name "y", .name "z"] ∧
      Spans (.code mixedCode) ((body mixedTokens).map Token.kind) := by
  have hparse : Code.parse 128 mixedTokens = .ok mixedCode := by cbv
  exact ⟨hparse, Code.readOff_of_parse hparse⟩

end MockupStudio.Script
