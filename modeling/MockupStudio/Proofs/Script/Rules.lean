/-
The grammar of scripts as a relation.

* `Phrase`: what a rule of the grammar reads;
* `Reads room phrase ts rest`: the tokens `ts` begin with a phrase, after
  which `rest` is left, and reading it takes no more than `room` levels; one
  constructor for each way in which a rule succeeds;
* `ReadsAll`: statements up to the end of the tokens;
* `symbol_ok`, `name_ok`, `statementEnd_ends`, `parameters_names` and the
  like: what the parts of the parser that read single tokens guarantee.
-/
import MockupStudio.Script.Parser
import Mathlib.Tactic.Lemma

namespace MockupStudio.Script

/-! ### Tokens -/

namespace Grammar

section Tokens

variable {g : Grammar} {ts rest : List Token}

lemma isSymbol_iff {m : Symbol} {k : Token.Kind} : isSymbol m k = true ↔ k = .symbol m := by
  cases k <;> simp [isSymbol, eq_comm]

lemma isKeyword_iff {w : Keyword} {k : Token.Kind} :
    isKeyword w k = true ↔ k = .keyword w := by
  cases k <;> simp [isKeyword, eq_comm]

lemma eq_of_isSymbol {m : Symbol} {t : Token} (h : isSymbol m t.kind = true) :
    t = ⟨.symbol m, t.position⟩ := by
  rw [← isSymbol_iff.mp h]

lemma eq_of_isKeyword {w : Keyword} {t : Token} (h : isKeyword w t.kind = true) :
    t = ⟨.keyword w, t.position⟩ := by
  rw [← isKeyword_iff.mp h]

/-- A symbol that had to come next is there. -/
lemma symbol_ok {m : Symbol} {what : Expectation} {u : Unit} {hl : rest.length < ts.length}
    (h : g.symbol m what ts = .ok ⟨u, rest, hl⟩) : ∃ q, ts = ⟨.symbol m, q⟩ :: rest := by
  rw [symbol.eq_def] at h
  split at h
  · split at h
    · next t rest hm =>
      cases h
      exact ⟨t.position, by rw [← eq_of_isSymbol hm]⟩
    · cases h
  · cases h

/-- A keyword that had to come next is there. -/
lemma keyword_ok {w : Keyword} {what : Expectation} {u : Unit} {hl : rest.length < ts.length}
    (h : g.keyword w what ts = .ok ⟨u, rest, hl⟩) : ∃ q, ts = ⟨.keyword w, q⟩ :: rest := by
  rw [keyword.eq_def] at h
  split at h
  · split at h
    · next t rest hw =>
      cases h
      exact ⟨t.position, by rw [← eq_of_isKeyword hw]⟩
    · cases h
  · cases h

/-- A name that had to come next is there. -/
lemma name_ok {what : Expectation} {x : String} {hl : rest.length < ts.length}
    (h : g.name what ts = .ok ⟨x, rest, hl⟩) : ∃ q, ts = ⟨.name x, q⟩ :: rest := by
  rw [name.eq_def] at h
  split at h
  · cases h
    exact ⟨_, rfl⟩
  · cases h

/-- An optional symbol is there and skipped, or not there. -/
lemma skipSymbol_spec (m : Symbol) (ts : List Token) :
    ((skipSymbol m ts).value = true ∧ ∃ q, ts = ⟨.symbol m, q⟩ :: (skipSymbol m ts).rest)
      ∨ ((skipSymbol m ts).value = false ∧ (skipSymbol m ts).rest = ts) := by
  rw [skipSymbol.eq_def]
  split
  · next t rest =>
    split
    · next hm => exact .inl ⟨rfl, t.position, by rw [← eq_of_isSymbol hm]⟩
    · exact .inr ⟨rfl, rfl⟩
  · exact .inr ⟨rfl, rfl⟩

lemma skipSymbol_true {m : Symbol} {h : rest.length < ts.length + 1}
    (hs : skipSymbol m ts = ⟨true, rest, h⟩) : ∃ q, ts = ⟨.symbol m, q⟩ :: rest := by
  have := skipSymbol_spec m ts
  rw [hs] at this
  simpa using this

lemma skipSymbol_false {m : Symbol} {h : rest.length < ts.length + 1}
    (hs : skipSymbol m ts = ⟨false, rest, h⟩) : rest = ts := by
  have := skipSymbol_spec m ts
  rw [hs] at this
  simpa using this

/-- An optional keyword is there and skipped, or not there. -/
lemma skipKeyword_spec (w : Keyword) (ts : List Token) :
    ((skipKeyword w ts).value = true ∧ ∃ q, ts = ⟨.keyword w, q⟩ :: (skipKeyword w ts).rest)
      ∨ ((skipKeyword w ts).value = false ∧ (skipKeyword w ts).rest = ts) := by
  rw [skipKeyword.eq_def]
  split
  · next t rest =>
    split
    · next hw => exact .inl ⟨rfl, t.position, by rw [← eq_of_isKeyword hw]⟩
    · exact .inr ⟨rfl, rfl⟩
  · exact .inr ⟨rfl, rfl⟩

lemma skipKeyword_true {w : Keyword} {h : rest.length < ts.length + 1}
    (hs : skipKeyword w ts = ⟨true, rest, h⟩) : ∃ q, ts = ⟨.keyword w, q⟩ :: rest := by
  have := skipKeyword_spec w ts
  rw [hs] at this
  simpa using this

lemma skipKeyword_false {w : Keyword} {h : rest.length < ts.length + 1}
    (hs : skipKeyword w ts = ⟨false, rest, h⟩) : rest = ts := by
  have := skipKeyword_spec w ts
  rw [hs] at this
  simpa using this

end Tokens

/-! ### The rules -/

/-- What a rule of the grammar reads. -/
inductive Phrase where
  | expression (e : Expr)
  | precedence (least : Nat) (e : Expr)
  /-- The links of a chain of operators after its first operand. -/
  | operators (least : Nat) (left e : Expr)
  | unary (e : Expr)
  | chain (e : Expr)
  /-- The calls, members and indexes after the base of a chain. -/
  | links (base e : Expr)
  | callArguments (es : List Expr)
  | arguments (es : List Expr)
  | primary (e : Expr)
  | items (es : List Expr)
  | members (ms : List (String × Expr))
  | declaration (s : Stmt)
  | statement (s : Stmt)
  /-- What follows the word `if`. -/
  | branches (condition : Expr) (body : List Stmt) (otherwise : Otherwise)
  /-- Statements and the closing brace after them. -/
  | block (body : List Stmt)

/-- The next token is an operator that binds at least so tightly. -/
def Binds (least : Nat) (ts : List Token) : Prop :=
  ∃ m q after op, ts = ⟨.symbol m, q⟩ :: after ∧ BinaryOp.ofSymbol? m = some op
    ∧ least ≤ op.precedence

/-- A statement ends: with a semicolon, or before a closing brace or the end. -/
inductive Ends : List Token → List Token → Prop where
  | atEnd : Ends [] []
  | semicolon : Ends (⟨.symbol .semicolon, q⟩ :: rest) rest
  | beforeBrace : Ends (⟨.symbol .rightBrace, q⟩ :: rest) (⟨.symbol .rightBrace, q⟩ :: rest)

/-- Parameter names separated by commas. -/
inductive Names : List String → List Token → List Token → Prop where
  | none : Names [] ts ts
  | one : Names [x] (⟨.name x, q⟩ :: rest) rest
  | more : Names xs ts rest →
      Names (x :: xs) (⟨.name x, q⟩ :: ⟨.symbol .comma, r⟩ :: ts) rest

/-- The key of a property. -/
inductive Key : String → Token → Prop where
  | name : Key s ⟨.name s, q⟩
  | text : Key s ⟨.literal (.text s), q⟩
  | int : Key (Decimal.integer n.toInt) ⟨.literal (.int n), q⟩

/-- An optional token. -/
inductive Perhaps (kind : Token.Kind) : Bool → List Token → List Token → Prop where
  | there : Perhaps kind true (⟨kind, q⟩ :: rest) rest
  | missing : Perhaps kind false ts ts

/-- The tokens `ts` begin with a phrase that `rest` follows, and reading it
takes no more than `room` levels. -/
inductive Reads : Nat → Phrase → List Token → List Token → Prop where
  | expression : Reads room (.precedence 1 e) ts rest →
      Reads (room + 1) (.expression e) ts rest
  | precedence : Reads room (.unary left) ts mid → Reads room (.operators least left e) mid rest →
      Reads room (.precedence least e) ts rest
  | noOperator : ¬ Binds least ts → Reads room (.operators least left left) ts ts
  | operator : BinaryOp.ofSymbol? m = some op → least ≤ op.precedence →
      Reads room (.precedence (op.precedence + 1) right) ts mid →
      Reads room (.operators least (.binary op left right) e) mid rest →
      Reads (room + 1) (.operators least left e) (⟨.symbol m, q⟩ :: ts) rest
  | noSign : Reads room (.chain e) ts rest → Reads room (.unary e) ts rest
  | sign : UnaryOp.ofSymbol? m = some op → Reads room (.unary e) ts rest →
      Reads (room + 1) (.unary (.unary op e)) (⟨.symbol m, q⟩ :: ts) rest
  | chain : Reads room (.primary base) ts mid → Reads room (.links base e) mid rest →
      Reads room (.chain e) ts rest
  | noLink : Reads room (.links base base) ts ts
  | call : Reads room (.callArguments es) ts mid →
      Reads room (.links (.call base es) e) mid rest →
      Reads (room + 1) (.links base e) (⟨.symbol .leftParen, q⟩ :: ts) rest
  | member : Reads room (.links (.member base key) e) ts rest →
      Reads (room + 1) (.links base e) (⟨.symbol .dot, q⟩ :: ⟨.name key, r⟩ :: ts) rest
  | index : Reads room (.expression key) ts (⟨.symbol .rightBracket, r⟩ :: mid) →
      Reads room (.links (.index base key) e) mid rest →
      Reads (room + 1) (.links base e) (⟨.symbol .leftBracket, q⟩ :: ts) rest
  | noArguments : Reads room (.callArguments []) (⟨.symbol .rightParen, q⟩ :: rest) rest
  | callArguments : Reads room (.arguments es) ts (⟨.symbol .rightParen, q⟩ :: rest) →
      Reads room (.callArguments es) ts rest
  | lastArgument : Reads room (.expression e) ts mid → Perhaps (.symbol .comma) b mid rest →
      Reads room (.arguments [e]) ts rest
  | argument : Reads room (.expression e) ts (⟨.symbol .comma, q⟩ :: mid) →
      Reads room (.arguments es) mid rest → Reads room (.arguments (e :: es)) ts rest
  | literal : Reads room (.primary (.literal l)) (⟨.literal l, q⟩ :: rest) rest
  | name : Reads room (.primary (.name x)) (⟨.name x, q⟩ :: rest) rest
  | parens : Reads room (.expression e) ts (⟨.symbol .rightParen, r⟩ :: rest) →
      Reads room (.primary e) (⟨.symbol .leftParen, q⟩ :: ts) rest
  | array : Reads room (.items es) ts rest →
      Reads room (.primary (.array es)) (⟨.symbol .leftBracket, q⟩ :: ts) rest
  | object : Reads room (.members ms) ts rest →
      Reads room (.primary (.object ms)) (⟨.symbol .leftBrace, q⟩ :: ts) rest
  | thunk : Reads room (.expression e) ts rest →
      Reads room (.primary (.lambda [] e)) (⟨.symbol .either, q⟩ :: ts) rest
  | lambda : Names xs ts (⟨.symbol .pipe, r⟩ :: mid) → Reads room (.expression e) mid rest →
      Reads room (.primary (.lambda xs e)) (⟨.symbol .pipe, q⟩ :: ts) rest
  | noItems : Reads room (.items []) (⟨.symbol .rightBracket, q⟩ :: rest) rest
  | lastItem : Reads room (.expression e) ts (⟨.symbol .rightBracket, q⟩ :: rest) →
      Reads room (.items [e]) ts rest
  | item : Reads room (.expression e) ts (⟨.symbol .comma, q⟩ :: mid) →
      Reads room (.items es) mid rest → Reads room (.items (e :: es)) ts rest
  | noMembers : Reads room (.members []) (⟨.symbol .rightBrace, q⟩ :: rest) rest
  | lastMember : Key key t → Reads room (.expression e) ts (⟨.symbol .rightBrace, r⟩ :: rest) →
      Reads room (.members [(key, e)]) (t :: ⟨.symbol .colon, q⟩ :: ts) rest
  | another : Key key t → Reads room (.expression e) ts (⟨.symbol .comma, r⟩ :: mid) →
      Reads room (.members ms) mid rest →
      Reads room (.members ((key, e) :: ms)) (t :: ⟨.symbol .colon, q⟩ :: ts) rest
  | declaration : Reads room (.statement s) ts rest → Reads (room + 1) (.declaration s) ts rest
  | declareNull : Ends ts rest →
      Reads room (.statement (.declare x none)) (⟨.keyword .letWord, q⟩ :: ⟨.name x, r⟩ :: ts)
        rest
  | declare : Reads room (.expression e) ts mid → Ends mid rest →
      Reads room (.statement (.declare x (some e)))
        (⟨.keyword .letWord, q⟩ :: ⟨.name x, r⟩ :: ⟨.symbol .assign, r'⟩ :: ts) rest
  | function : Names xs ts (⟨.symbol .rightParen, r⟩ :: ⟨.symbol .leftBrace, r'⟩ :: mid) →
      Reads room (.block code) mid rest →
      Reads room (.statement (.function x xs code))
        (⟨.keyword .fnWord, q⟩ :: ⟨.name x, q'⟩ :: ⟨.symbol .leftParen, q''⟩ :: ts) rest
  | branch : Reads room (.branches c code o) ts rest →
      Reads room (.statement (.branch c code o)) (⟨.keyword .ifWord, q⟩ :: ts) rest
  | loop : Reads room (.expression c) ts (⟨.symbol .leftBrace, r⟩ :: mid) →
      Reads room (.block code) mid rest →
      Reads room (.statement (.loop c code)) (⟨.keyword .whileWord, q⟩ :: ts) rest
  | each : Perhaps (.symbol .leftParen) bracketed ts ts₁ → Perhaps (.keyword .letWord) b ts₁ ts₂ →
      ts₂ = ⟨.name x, q'⟩ :: ⟨.keyword .inWord, q''⟩ :: ts₃ →
      Reads room (.expression source) ts₃ ts₄ →
      Perhaps (.symbol .rightParen) bracketed ts₄ (⟨.symbol .leftBrace, r⟩ :: mid) →
      Reads room (.block code) mid rest →
      Reads room (.statement (.each x source code)) (⟨.keyword .forWord, q⟩ :: ts) rest
  | resultNull : Ends ts rest →
      Reads room (.statement (.result none)) (⟨.keyword .returnWord, q⟩ :: ts) rest
  | result : Reads room (.expression e) ts mid → Ends mid rest →
      Reads room (.statement (.result (some e))) (⟨.keyword .returnWord, q⟩ :: ts) rest
  | leaveLoop : Ends ts rest →
      Reads room (.statement .leaveLoop) (⟨.keyword .breakWord, q⟩ :: ts) rest
  | nextTurn : Ends ts rest →
      Reads room (.statement .nextTurn) (⟨.keyword .continueWord, q⟩ :: ts) rest
  | braces : Reads room (.block code) ts rest →
      Reads room (.statement (.block code)) (⟨.symbol .leftBrace, q⟩ :: ts) rest
  | value : Reads room (.expression e) ts mid → Ends mid rest →
      Reads room (.statement (.expr e)) ts rest
  | assign : Reads room (.expression (.name x)) ts (⟨.symbol .assign, q⟩ :: mid) →
      Reads room (.expression e) mid mid' → Ends mid' rest →
      Reads room (.statement (.assign x e)) ts rest
  | noElse : Reads room (.expression c) ts (⟨.symbol .leftBrace, q⟩ :: mid) →
      Reads room (.block code) mid rest → Reads room (.branches c code .nothing) ts rest
  | elseBlock : Reads room (.expression c) ts (⟨.symbol .leftBrace, q⟩ :: mid) →
      Reads room (.block code) mid (⟨.keyword .elseWord, r⟩ :: ⟨.symbol .leftBrace, r'⟩ :: mid') →
      Reads room (.block code') mid' rest → Reads room (.branches c code (.block code')) ts rest
  | elseIf : Reads (room + 1) (.expression c) ts (⟨.symbol .leftBrace, q⟩ :: mid) →
      Reads (room + 1) (.block code) mid
        (⟨.keyword .elseWord, r⟩ :: ⟨.keyword .ifWord, r'⟩ :: mid') →
      Reads room (.branches c' code' o) mid' rest →
      Reads (room + 1) (.branches c code (.branch c' code' o)) ts rest
  | endBlock : Reads room (.block []) (⟨.symbol .rightBrace, q⟩ :: rest) rest
  | next : Reads room (.declaration s) ts mid → Reads room (.block code) mid rest →
      Reads room (.block (s :: code)) ts rest

/-- Statements up to the end of the tokens. -/
inductive ReadsAll (limit : Nat) : Code → List Token → Prop where
  | nil : ReadsAll limit [] []
  | cons : Reads limit (.declaration s) ts rest → ReadsAll limit code rest →
      ReadsAll limit (s :: code) ts

/-! ### Parts without expressions -/

section Rules

variable {g : Grammar} {ts rest : List Token}

/-- A success after a change of the result comes from a success. -/
lemma map_ok {α β : Type} {n k : Nat} {f : Parsed α n → Parsed β k}
    {r : Except ParseError (Parsed α n)} {p : Parsed β k} (h : r.map f = .ok p) :
    ∃ v after hl, r = .ok ⟨v, after, hl⟩ ∧ f ⟨v, after, hl⟩ = p := by
  cases r with
  | error e => cases h
  | ok q => exact ⟨q.value, q.rest, q.shorter, rfl, Except.ok.inj h⟩

lemma skipSymbol_perhaps {m : Symbol} {b : Bool} {h : rest.length < ts.length + 1}
    (hs : skipSymbol m ts = ⟨b, rest, h⟩) : Perhaps (.symbol m) b ts rest := by
  cases b with
  | true =>
    obtain ⟨q, rfl⟩ := skipSymbol_true hs
    exact .there
  | false =>
    obtain rfl := skipSymbol_false hs
    exact .missing

lemma skipKeyword_perhaps {w : Keyword} {b : Bool} {h : rest.length < ts.length + 1}
    (hs : skipKeyword w ts = ⟨b, rest, h⟩) : Perhaps (.keyword w) b ts rest := by
  cases b with
  | true =>
    obtain ⟨q, rfl⟩ := skipKeyword_true hs
    exact .there
  | false =>
    obtain rfl := skipKeyword_false hs
    exact .missing


lemma statementEnd_ends {u : Unit} {hl : rest.length < ts.length + 1}
    (h : g.statementEnd ts = .ok ⟨u, rest, hl⟩) : Ends ts rest := by
  rw [statementEnd.eq_def] at h
  split at h
  · cases h
    exact .atEnd
  · split at h
    · next hm =>
      cases h
      rw [eq_of_isSymbol hm]
      exact .semicolon
    · split at h
      · next hm =>
        cases h
        rw [eq_of_isSymbol hm]
        exact .beforeBrace
      · cases h

lemma propertyKey_ok {key : String} {hl : rest.length < ts.length}
    (h : g.propertyKey ts = .ok ⟨key, rest, hl⟩) : ∃ t, ts = t :: rest ∧ Key key t := by
  rw [propertyKey.eq_def] at h
  split at h
  · cases h; exact ⟨_, rfl, .name⟩
  · cases h; exact ⟨_, rfl, .text⟩
  · cases h; exact ⟨_, rfl, .int⟩
  · cases h

lemma parametersFrom_ok {ts rest : List Token} {done xs : List String}
    {hl : rest.length < ts.length} (h : g.parametersFrom done ts = .ok ⟨xs, rest, hl⟩) :
    ∃ ys, xs = done.reverse ++ ys ∧ Names ys ts rest := by
  rw [parametersFrom.eq_def] at h
  split at h
  · cases h
  · split at h
    · cases h
    · next x t after hlt hx =>
      obtain ⟨q, rfl⟩ := name_ok hx
      split at h
      · next hm =>
        split at h
        · cases h
        · next hxs =>
          cases h
          obtain ⟨ys, rfl, hread⟩ := parametersFrom_ok hxs
          refine ⟨x :: ys, by simp, ?_⟩
          rw [eq_of_isSymbol hm]
          exact .more hread
      · cases h
        exact ⟨[x], by simp, .one⟩
    · next x hlt hx =>
      cases h
      obtain ⟨q, rfl⟩ := name_ok hx
      exact ⟨[x], by simp, .one⟩
termination_by ts.length

lemma parameters_names {close : Symbol} {xs : List String} {hl : rest.length < ts.length + 1}
    (h : g.parameters close ts = .ok ⟨xs, rest, hl⟩) : Names xs ts rest := by
  rw [parameters] at h
  split at h
  · cases h
    exact .none
  · obtain ⟨_, _, _, hfrom, heq⟩ := map_ok h
    cases heq
    obtain ⟨ys, rfl, hread⟩ := parametersFrom_ok hfrom
    exact hread

end Rules

end Grammar

end MockupStudio.Script
