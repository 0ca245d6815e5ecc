/-
Reading the tokens of scripts.

* `finds_*`: with room enough, each rule for statements succeeds on what it
  is meant for;
* `statement_written`: the tokens of a statement are read as that statement,
  if no `else` follows;
* `parse_written`: parsing the tokens of a script gives back the script;
* `written_injective`: so no two scripts are written with the same tokens.
-/
import MockupStudio.Proofs.Script.PrintedExpressions

namespace MockupStudio.Script

open Grammar Filter

section Parts

variable {g : Grammar} {ts mid rest : List Token} {e c : Expr} {s : Stmt} {body : List Stmt}
  {o : Otherwise} {q q' r r' : Position} {name item : String} {parameters : List String}

/-! ### Statements without inner statements -/

lemma finds_declaration (h : Finds (·.statement · ts) s rest) :
    Finds (·.declaration · ts) s rest := by
  refine eventually_of_succ ?_
  filter_upwards [h] with room h g
  obtain ⟨hl, h⟩ := h g
  exact ⟨hl, by rw [declaration.eq_def]; exact h⟩

lemma finds_declareNull :
    Finds (·.statement ·
      (⟨.keyword .letWord, q⟩ :: ⟨.name name, q'⟩ :: ⟨.symbol .semicolon, r⟩ :: rest))
      (.declare name none) rest := by
  refine finds_of_yields fun g room => ⟨by simp only [List.length_cons]; omega, ?_⟩
  rw [statement.eq_def]
  rfl

lemma finds_declare (h : Finds (·.expression · ts) e (⟨.symbol .semicolon, r'⟩ :: rest)) :
    Finds (·.statement ·
      (⟨.keyword .letWord, q⟩ :: ⟨.name name, q'⟩ :: ⟨.symbol .assign, r⟩ :: ts))
      (.declare name (some e)) rest := by
  filter_upwards [h] with room h g
  obtain ⟨hl, h⟩ := h g
  rw [List.length_cons] at hl
  refine ⟨by simp only [List.length_cons]; omega, ?_⟩
  rw [statement.eq_def]
  simp only [variableDeclaration, Grammar.name, skipSymbol, isSymbol, decide_true, if_true, h,
    statementEnd, Except.map]

lemma finds_resultNull :
    Finds (·.statement · (⟨.keyword .returnWord, q⟩ :: ⟨.symbol .semicolon, r⟩ :: rest))
      (.result none) rest := by
  refine finds_of_yields fun g room => ⟨by simp only [List.length_cons]; omega, ?_⟩
  rw [statement.eq_def]
  rfl

lemma returnsNothing_eq (ts : List Token) (h : (found ts).opensExpression) :
    returnsNothing ts = false := by
  cases ts with
  | nil => cases h
  | cons t ts =>
    have hsemicolon : isSymbol .semicolon t.kind = false := isSymbol_of_opensExpression h rfl
    have hbrace : isSymbol .rightBrace t.kind = false := isSymbol_of_opensExpression h rfl
    rw [returnsNothing, hsemicolon, hbrace]
    rfl

lemma finds_result (h : Finds (·.expression · ts) e (⟨.symbol .semicolon, r⟩ :: rest))
    (hopens : (found ts).opensExpression) :
    Finds (·.statement · (⟨.keyword .returnWord, q⟩ :: ts)) (.result (some e)) rest := by
  filter_upwards [h] with room h g
  obtain ⟨hl, h⟩ := h g
  rw [List.length_cons] at hl
  refine ⟨by simp only [List.length_cons]; omega, ?_⟩
  rw [statement.eq_def]
  simp only [returnStatement, returnsNothing_eq ts hopens, h, statementEnd, isSymbol, decide_true,
    if_true, Except.map]
  rfl

lemma finds_leaveLoop :
    Finds (·.statement · (⟨.keyword .breakWord, q⟩ :: ⟨.symbol .semicolon, r⟩ :: rest))
      .leaveLoop rest := by
  refine finds_of_yields fun g room => ⟨by simp only [List.length_cons]; omega, ?_⟩
  rw [statement.eq_def]
  rfl

lemma finds_nextTurn :
    Finds (·.statement · (⟨.keyword .continueWord, q⟩ :: ⟨.symbol .semicolon, r⟩ :: rest))
      .nextTurn rest := by
  refine finds_of_yields fun g room => ⟨by simp only [List.length_cons]; omega, ?_⟩
  rw [statement.eq_def]
  rfl

/-- What begins with an expression that is no object is no other statement. -/
lemma statement_eq (room : Nat) (h : (found ts).opensExpression)
    (hbrace : isSymbol .leftBrace (found ts) = false) :
    g.statement room ts = g.expressionStatement room ts := by
  rw [statement.eq_def]
  split
  iterate 8 cases h
  · cases hbrace
  · rfl

lemma finds_value (h : Finds (·.expression · ts) e (⟨.symbol .semicolon, r⟩ :: rest))
    (hopens : (found ts).opensExpression) (hbrace : isSymbol .leftBrace (found ts) = false) :
    Finds (·.statement · ts) (.expr e) rest := by
  filter_upwards [h] with room h g
  obtain ⟨hl, h⟩ := h g
  rw [List.length_cons] at hl
  refine ⟨by omega, ?_⟩
  rw [statement_eq room hopens hbrace, expressionStatement]
  simp [h, skipSymbol, isSymbol, statementEnd]

lemma finds_assign (h : Finds (·.expression · ts) e (⟨.symbol .semicolon, r⟩ :: rest)) :
    Finds (·.statement · (⟨.name name, q⟩ :: ⟨.symbol .assign, q'⟩ :: ts)) (.assign name e)
      rest := by
  have hname : Finds (·.expression · (⟨.name name, q⟩ :: ⟨.symbol .assign, q'⟩ :: ts))
      (.name name) (⟨.symbol .assign, q'⟩ :: ts) :=
    Expr.parses (.name name) rfl [⟨.name name, q⟩] _ rfl rfl
  filter_upwards [hname, h] with room hname h g
  obtain ⟨hl, hname⟩ := hname g
  obtain ⟨hl', h⟩ := h g
  rw [List.length_cons] at hl'
  refine ⟨by simp only [List.length_cons]; omega, ?_⟩
  rw [statement_eq room rfl rfl, expressionStatement]
  simp only [hname, skipSymbol, isSymbol, decide_true, if_true, h, statementEnd]

/-! ### Statements around statements -/

lemma finds_function
    (hheader : ∀ g : Grammar, Yields (g.functionHeader ts) (name, parameters) mid)
    (hbody : Finds (·.blockBody · [] mid) body rest) :
    Finds (·.statement · (⟨.keyword .fnWord, q⟩ :: ts)) (.function name parameters body) rest := by
  filter_upwards [hbody] with room hbody g
  obtain ⟨hl, hheader⟩ := hheader g
  obtain ⟨hl', hbody⟩ := hbody g
  refine ⟨by simp only [List.length_cons]; omega, ?_⟩
  rw [statement.eq_def]
  simp only [hheader, hbody]

lemma functionHeader_yields {us : List Token} (h : Laid (writtenNames parameters) us)
    (hlength : parameters.length ≤ 255) :
    Yields (g.functionHeader (⟨.name name, q⟩ :: ⟨.symbol .leftParen, q'⟩
        :: (us ++ ⟨.symbol .rightParen, r⟩ :: ⟨.symbol .leftBrace, r'⟩ :: rest)))
      (name, parameters) rest := by
  have hparameters : Yields (g.parameters .rightParen
      (us ++ ⟨.symbol .rightParen, r⟩ :: ⟨.symbol .leftBrace, r'⟩ :: rest)) parameters
      (⟨.symbol .rightParen, r⟩ :: ⟨.symbol .leftBrace, r'⟩ :: rest) :=
    parameters_yields h hlength (by decide)
  obtain ⟨hl, hparameters⟩ := hparameters
  refine ⟨by simp only [List.length_cons, List.length_append]; omega, ?_⟩
  rw [functionHeader]
  simp only [Grammar.name, symbol, isSymbol, decide_true, if_true, hparameters]

lemma finds_branch (h : Finds (·.branches · ts) (c, body, o) rest) :
    Finds (·.statement · (⟨.keyword .ifWord, q⟩ :: ts)) (.branch c body o) rest := by
  filter_upwards [h] with room h g
  obtain ⟨hl, h⟩ := h g
  refine ⟨by simp only [List.length_cons]; omega, ?_⟩
  rw [statement.eq_def]
  simp only [h]

lemma finds_loop (hcondition : Finds (·.expression · ts) c mid)
    (hbody : Finds (·.braced .braceAfterWhile · mid) body rest) :
    Finds (·.statement · (⟨.keyword .whileWord, q⟩ :: ts)) (.loop c body) rest := by
  filter_upwards [hcondition, hbody] with room hcondition hbody g
  obtain ⟨hl, hcondition⟩ := hcondition g
  obtain ⟨hl', hbody⟩ := hbody g
  refine ⟨by simp only [List.length_cons]; omega, ?_⟩
  rw [statement.eq_def]
  simp only [hcondition, hbody]

lemma finds_each (hsource : Finds (·.expression · ts) e mid)
    (hbody : Finds (·.braced .braceAfterLoopHeader · mid) body rest) :
    Finds (·.statement ·
      (⟨.keyword .forWord, q⟩ :: ⟨.name item, q'⟩ :: ⟨.keyword .inWord, r⟩ :: ts))
      (.each item e body) rest := by
  filter_upwards [hsource, hbody] with room hsource hbody g
  obtain ⟨hl, hsource⟩ := hsource g
  obtain ⟨hl', hbody⟩ := hbody g
  refine ⟨by simp only [List.length_cons]; omega, ?_⟩
  have hheader : ∃ h, g.loopHeader room (⟨.name item, q'⟩ :: ⟨.keyword .inWord, r⟩ :: ts)
      = .ok ⟨(item, e), mid, h⟩ := by
    refine ⟨by simp only [List.length_cons]; omega, ?_⟩
    rw [loopHeader]
    simp [skipSymbol, skipKeyword, isSymbol, isKeyword, Grammar.name, keyword, hsource]
  obtain ⟨_, hheader⟩ := hheader
  rw [statement.eq_def]
  simp only [hheader, hbody]

lemma beginsObject_eq (ts : List Token) : beginsObject ts = opensMember (ts.map Token.kind) := by
  rw [beginsObject.eq_def]
  split
  · rfl
  · rfl
  · next hname htext =>
    match ts with
    | [] => rfl
    | ⟨k, q⟩ :: [] => cases k with
      | literal l => cases l <;> rfl
      | _ => rfl
    | ⟨k, q⟩ :: t :: ts => cases k with
      | name x => exact absurd rfl (hname x q t ts)
      | literal l => cases l with
        | text x => exact absurd rfl (htext x q t ts)
        | _ => rfl
      | _ => rfl

lemma finds_block (h : Finds (·.blockBody · [] ts) body rest)
    (hmember : opensMember (ts.map Token.kind) = false) :
    Finds (·.statement · (⟨.symbol .leftBrace, q⟩ :: ts)) (.block body) rest := by
  filter_upwards [h] with room h g
  obtain ⟨hl, h⟩ := h g
  refine ⟨by simp only [List.length_cons]; omega, ?_⟩
  rw [statement.eq_def]
  simp only [beginsObject_eq, hmember, h]
  rfl

lemma finds_braced {what : Expectation} (h : Finds (·.blockBody · [] ts) body rest) :
    Finds (·.braced what · (⟨.symbol .leftBrace, q⟩ :: ts)) body rest := by
  filter_upwards [h] with room h g
  obtain ⟨hl, h⟩ := h g
  refine ⟨by simp only [List.length_cons]; omega, ?_⟩
  rw [Grammar.braced]
  simp only [symbol, isSymbol, decide_true, if_true, h]

/-! ### Branches -/

lemma skipKeyword_there (w : Keyword) : skipKeyword w (⟨.keyword w, q⟩ :: rest)
    = ⟨true, rest, Nat.lt_succ_of_lt (Nat.lt_succ_self _)⟩ := by
  simp [skipKeyword, isKeyword]

lemma skipKeyword_missing {w : Keyword} (h : isKeyword w (found ts) = false) :
    skipKeyword w ts = ⟨false, ts, Nat.lt_succ_self _⟩ := by
  cases ts with
  | nil => rfl
  | cons t ts =>
    have hkind : isKeyword w t.kind = false := h
    rw [skipKeyword]
    simp [hkind]

lemma finds_noElse (hcondition : Finds (·.expression · ts) c mid)
    (hbody : Finds (·.braced .braceAfterIf · mid) body rest)
    (helse : isKeyword .elseWord (found rest) = false) :
    Finds (·.branches · ts) (c, body, .nothing) rest := by
  filter_upwards [hcondition, hbody] with room hcondition hbody g
  obtain ⟨hl, hcondition⟩ := hcondition g
  obtain ⟨hl', hbody⟩ := hbody g
  refine ⟨by omega, ?_⟩
  rw [branches.eq_def]
  simp only [hcondition, hbody, skipKeyword_missing helse]

lemma finds_elseBlock {after : List Token} {body' : List Stmt}
    (hcondition : Finds (·.expression · ts) c mid)
    (hbody : Finds (·.braced .braceAfterIf · mid) body (⟨.keyword .elseWord, q⟩ :: after))
    (hif : isKeyword .ifWord (found after) = false)
    (hmore : Finds (·.braced .braceAfterElse · after) body' rest) :
    Finds (·.branches · ts) (c, body, .block body') rest := by
  filter_upwards [hcondition, hbody, hmore] with room hcondition hbody hmore g
  obtain ⟨hl, hcondition⟩ := hcondition g
  obtain ⟨hl', hbody⟩ := hbody g
  obtain ⟨hl'', hmore⟩ := hmore g
  rw [List.length_cons] at hl'
  refine ⟨by omega, ?_⟩
  rw [branches.eq_def]
  simp only [hcondition, hbody, skipKeyword_there, skipKeyword_missing hif, hmore]

lemma finds_elseIf {after : List Token} {c' : Expr} {body' : List Stmt}
    (hcondition : Finds (·.expression · ts) c mid)
    (hbody : Finds (·.braced .braceAfterIf · mid) body
      (⟨.keyword .elseWord, q⟩ :: ⟨.keyword .ifWord, q'⟩ :: after))
    (hmore : Finds (·.branches · after) (c', body', o) rest) :
    Finds (·.branches · ts) (c, body, .branch c' body' o) rest := by
  have hlater := tendsto_add_atTop_nat 1
  refine eventually_of_succ ?_
  filter_upwards [hlater.eventually hcondition, hlater.eventually hbody, hmore]
    with room hcondition hbody hmore g
  obtain ⟨hl, hcondition⟩ := hcondition g
  obtain ⟨hl', hbody⟩ := hbody g
  obtain ⟨hl'', hmore⟩ := hmore g
  simp only [List.length_cons] at hl'
  refine ⟨by omega, ?_⟩
  rw [branches.eq_def]
  simp only [hcondition, hbody, skipKeyword_there, hmore]

end Parts

/-! ### What statements begin with -/

/-- Whether a statement can begin with a token. -/
def Token.Kind.opensStatement : Token.Kind → Bool
  | .keyword w => w ≠ .elseWord && w ≠ .inWord
  | k => k.opensExpression || isSymbol .leftBrace k

lemma opensStatement_of_opensExpression {k : Token.Kind} (h : k.opensExpression) :
    k.opensStatement := by
  cases k with
  | keyword w => cases h
  | _ => simp [Token.Kind.opensStatement, h]

/-- An expression on its own does not begin with a brace. -/
lemma Expr.exists_writtenAlone (e : Expr) : ∃ k more, e.writtenAlone = k :: more
    ∧ k.opensExpression ∧ isSymbol .leftBrace k = false := by
  obtain ⟨k, more, hwritten, hk⟩ := e.exists_written
  rw [Expr.writtenAlone, hwritten]
  split
  · exact ⟨_, _, rfl, rfl, rfl⟩
  · next hbrace => exact ⟨k, more, rfl, hk, by simpa using hbrace⟩

lemma Stmt.exists_written (s : Stmt) : ∃ k more, s.written = k :: more ∧ k.opensStatement := by
  cases s with
  | expr e =>
    obtain ⟨k, more, hwritten, hk, -⟩ := e.exists_writtenAlone
    exact ⟨k, _, by rw [Stmt.written, hwritten]; rfl, opensStatement_of_opensExpression hk⟩
  | declare x value => cases value <;> exact ⟨_, _, rfl, rfl⟩
  | result value => cases value <;> exact ⟨_, _, rfl, rfl⟩
  | _ => exact ⟨_, _, rfl, rfl⟩

/-- No statement begins like the member of an object. -/
lemma Stmt.opensMember_written (s : Stmt) (more : List Token.Kind) :
    opensMember (s.written ++ more) = false := by
  cases s with
  | expr e =>
    rw [Stmt.written, Expr.writtenAlone, List.append_assoc]
    split
    · rfl
    · exact e.opensMember_written _ rfl
  | declare x value => cases value <;> rfl
  | result value => cases value <;> rfl
  | _ => rfl

lemma opensMember_writtenCode (code : Code) (more : List Token.Kind) :
    opensMember (Code.written code ++ .symbol .rightBrace :: more) = false := by
  cases code with
  | nil => rfl
  | cons s code =>
    rw [Code.written, List.append_assoc]
    exact s.opensMember_written _

/-- Nothing that begins a statement is an `else`. -/
lemma not_else_of_opensStatement {k : Token.Kind} (h : k.opensStatement) :
    isKeyword .elseWord k = false := by
  rw [Bool.eq_false_iff]
  intro helse
  rw [isKeyword_iff.mp helse] at h
  cases h

/-! ### Scripts -/

/-- The tokens of a statement are read as that statement, if no `else`
follows. -/
def Stmt.Parses (s : Stmt) : Prop :=
  ∀ ts rest, Laid s.written ts → isKeyword .elseWord (found rest) = false →
    Finds (·.statement · (ts ++ rest)) s rest

/-- The tokens of an `else` are read as what is done otherwise, after a
condition and what is done if it holds. -/
def Otherwise.Parses (o : Otherwise) : Prop :=
  ∀ c body ts mid us rest, Laid o.written us → isKeyword .elseWord (found rest) = false →
    Finds (·.expression · ts) c mid → Finds (·.braced .braceAfterIf · mid) body (us ++ rest) →
    Finds (·.branches · ts) (c, body, o) rest

/-- The tokens of statements are read as those statements before a closing
brace. -/
def Code.Parses (code : Code) : Prop :=
  ∀ done ts rest q, Laid (Code.written code) ts →
    Finds (·.blockBody · done (ts ++ ⟨.symbol .rightBrace, q⟩ :: rest)) (done.reverse ++ code) rest

section Scripts

variable {ts rest : List Token} {e : Expr} {s : Stmt} {code : Code} {kinds : List Token.Kind}

lemma laid_inBraces : Laid (inBraces kinds) ts ↔ ∃ q us r,
    ts = ⟨.symbol .leftBrace, q⟩ :: (us ++ [⟨.symbol .rightBrace, r⟩]) ∧ Laid kinds us := by
  constructor
  · intro h
    obtain ⟨q, _, rfl, hmore⟩ := laid_cons.mp h
    obtain ⟨us, _, rfl, hus, hlast⟩ := laid_append.mp hmore
    obtain ⟨r, rfl⟩ := laid_singleton.mp hlast
    exact ⟨q, us, r, rfl, hus⟩
  · rintro ⟨q, us, r, rfl, hus⟩
    exact laid_cons.mpr ⟨q, _, rfl, laid_append.mpr ⟨us, _, rfl, hus, rfl⟩⟩

lemma Code.Parses.braced {what : Expectation} (h : Code.Parses code)
    (hts : Laid (inBraces (Code.written code)) ts) :
    Finds (·.braced what · (ts ++ rest)) code rest := by
  obtain ⟨q, us, r, rfl, hus⟩ := laid_inBraces.mp hts
  rw [List.cons_append, List.append_assoc]
  exact finds_braced (h [] us rest r hus)

/-- What follows a condition does not go on with it. -/
lemma closes_inBraces (hts : Laid (inBraces kinds) ts) : (found (ts ++ rest)).closes := by
  obtain ⟨q, us, r, rfl, -⟩ := laid_inBraces.mp hts
  rfl

lemma Expr.finds_alone (he : e.isBrief) (hts : Laid e.writtenAlone ts)
    (hclose : (found rest).closes) : Finds (·.expression · (ts ++ rest)) e rest := by
  rw [Expr.writtenAlone] at hts
  split at hts
  · obtain ⟨q, _, rfl, hmore⟩ := laid_cons.mp hts
    obtain ⟨us, _, rfl, hus, hlast⟩ := laid_append.mp hmore
    obtain ⟨r, rfl⟩ := laid_singleton.mp hlast
    exact (found_written e he us hus).parens.expression rest hclose
  · exact e.parses he ts rest hts hclose

lemma Expr.parses_alone (he : e.isBrief) : (Stmt.expr e).Parses := by
  intro ts rest hts _
  obtain ⟨k, more, hwritten, hopens, hbrace⟩ := e.exists_writtenAlone
  obtain ⟨us, _, rfl, hus, hlast⟩ := laid_append.mp hts
  obtain ⟨r, rfl⟩ := laid_singleton.mp hlast
  have hexpression : Finds (·.expression · (us ++ ⟨.symbol .semicolon, r⟩ :: rest)) e
      (⟨.symbol .semicolon, r⟩ :: rest) := Expr.finds_alone he hus rfl
  rw [hwritten] at hus
  obtain ⟨q, us, rfl, -⟩ := laid_cons.mp hus
  rw [List.append_assoc]
  exact finds_value hexpression hopens hbrace

lemma not_else_written (hts : Laid (Code.written code) ts)
    (hrest : isKeyword .elseWord (found rest) = false) :
    isKeyword .elseWord (found (ts ++ rest)) = false := by
  cases code with
  | nil =>
    obtain rfl := laid_nil.mp hts
    exact hrest
  | cons s code =>
    obtain ⟨k, more, hwritten, hk⟩ := s.exists_written
    rw [Code.written, hwritten] at hts
    obtain ⟨q, ts, rfl, -⟩ := laid_cons.mp hts
    exact not_else_of_opensStatement hk

lemma Code.parses_cons (hs : s.Parses) (hcode : Code.Parses code) : Code.Parses (s :: code) := by
  intro done ts rest q hts
  obtain ⟨us, vs, rfl, hus, hvs⟩ := laid_append.mp hts
  obtain ⟨k, more, hwritten, hk⟩ := s.exists_written
  have hnext : isKeyword .elseWord (found (vs ++ ⟨.symbol .rightBrace, q⟩ :: rest)) = false :=
    not_else_written hvs rfl
  have hdeclaration := finds_declaration (hs us _ hus hnext)
  have hlater := hcode (s :: done) vs rest q hvs
  rw [hwritten] at hus
  obtain ⟨q', us, rfl, -⟩ := laid_cons.mp hus
  have hbrace : isSymbol .rightBrace k = false := by
    rw [Bool.eq_false_iff]
    intro hbrace
    rw [isSymbol_iff.mp hbrace] at hk
    cases hk
  rw [List.append_assoc]
  filter_upwards [hdeclaration, hlater] with room hdeclaration hlater g
  obtain ⟨hl, hdeclaration⟩ := hdeclaration g
  obtain ⟨hl', hlater⟩ := hlater g
  refine ⟨Nat.lt_trans hl' hl, ?_⟩
  rw [blockBody.eq_def]
  simp only [List.cons_append] at hdeclaration ⊢
  simp only [hbrace, hdeclaration, hlater]
  simp

mutual

/-- The tokens of a statement are read as that statement. -/
theorem statement_written : (s : Stmt) → s.isBrief → s.Parses
  | .expr e, hbrief => Expr.parses_alone hbrief
  | .declare x none, _ => by
    intro ts rest hts _
    obtain ⟨q, _, rfl, hname⟩ := laid_cons.mp hts
    obtain ⟨q', _, rfl, hlast⟩ := laid_cons.mp hname
    obtain ⟨r, rfl⟩ := laid_singleton.mp hlast
    exact finds_declareNull
  | .declare x (some e), hbrief => by
    intro ts rest hts _
    obtain ⟨q, _, rfl, hname⟩ := laid_cons.mp hts
    obtain ⟨q', _, rfl, hassign⟩ := laid_cons.mp hname
    obtain ⟨r, _, rfl, hvalue⟩ := laid_cons.mp hassign
    obtain ⟨us, _, rfl, hus, hlast⟩ := laid_append.mp hvalue
    obtain ⟨r', rfl⟩ := laid_singleton.mp hlast
    rw [List.cons_append, List.cons_append, List.cons_append, List.append_assoc]
    exact finds_declare (e.parses hbrief us (_ :: rest) hus rfl)
  | .assign x e, hbrief => by
    intro ts rest hts _
    obtain ⟨q, _, rfl, hassign⟩ := laid_cons.mp hts
    obtain ⟨r, _, rfl, hvalue⟩ := laid_cons.mp hassign
    obtain ⟨us, _, rfl, hus, hlast⟩ := laid_append.mp hvalue
    obtain ⟨r', rfl⟩ := laid_singleton.mp hlast
    rw [List.cons_append, List.cons_append, List.append_assoc]
    exact finds_assign (e.parses hbrief us (_ :: rest) hus rfl)
  | .block body, hbrief => by
    intro ts rest hts _
    obtain ⟨q, us, r, rfl, hus⟩ := laid_inBraces.mp hts
    rw [List.cons_append, List.append_assoc]
    refine finds_block (code_written body hbrief [] us rest r hus) ?_
    rw [List.map_append, hus]
    exact opensMember_writtenCode body _
  | .branch c body o, hbrief => by
    intro ts rest hts helse
    simp only [Stmt.isBrief, Bool.and_eq_true] at hbrief
    obtain ⟨⟨hc, hbody⟩, ho⟩ := hbrief
    obtain ⟨q, _, rfl, hmore⟩ := laid_cons.mp hts
    obtain ⟨cs, _, rfl, hcs, hmore'⟩ := laid_append.mp hmore
    obtain ⟨bs, os, rfl, hbs, hos⟩ := laid_append.mp hmore'
    rw [List.cons_append, List.append_assoc, List.append_assoc]
    exact finds_branch (otherwise_written o ho c body _ _ os rest hos helse
      (c.parses hc cs _ hcs (closes_inBraces hbs)) ((code_written body hbody).braced hbs))
  | .loop c body, hbrief => by
    intro ts rest hts _
    rw [Stmt.isBrief, Bool.and_eq_true] at hbrief
    obtain ⟨q, _, rfl, hmore⟩ := laid_cons.mp hts
    obtain ⟨cs, bs, rfl, hcs, hbs⟩ := laid_append.mp hmore
    rw [List.cons_append, List.append_assoc]
    exact finds_loop (c.parses hbrief.1 cs _ hcs (closes_inBraces hbs))
      ((code_written body hbrief.2).braced hbs)
  | .each item source body, hbrief => by
    intro ts rest hts _
    rw [Stmt.isBrief, Bool.and_eq_true] at hbrief
    obtain ⟨q, _, rfl, hname⟩ := laid_cons.mp hts
    obtain ⟨q', _, rfl, hin⟩ := laid_cons.mp hname
    obtain ⟨r, _, rfl, hmore⟩ := laid_cons.mp hin
    obtain ⟨cs, bs, rfl, hcs, hbs⟩ := laid_append.mp hmore
    rw [List.cons_append, List.cons_append, List.cons_append, List.append_assoc]
    exact finds_each (source.parses hbrief.1 cs _ hcs (closes_inBraces hbs))
      ((code_written body hbrief.2).braced hbs)
  | .function x parameters body, hbrief => by
    intro ts rest hts _
    simp only [Stmt.isBrief, Bool.and_eq_true, decide_eq_true_eq] at hbrief
    obtain ⟨q, _, rfl, hname⟩ := laid_cons.mp hts
    obtain ⟨q', _, rfl, hparen⟩ := laid_cons.mp hname
    obtain ⟨r, _, rfl, hmore⟩ := laid_cons.mp hparen
    obtain ⟨us, _, rfl, hnames, hclose⟩ := laid_append.mp hmore
    obtain ⟨r', _, rfl, hbody⟩ := laid_cons.mp hclose
    obtain ⟨p, vs, p', rfl, hvs⟩ := laid_inBraces.mp hbody
    rw [List.cons_append, List.cons_append, List.cons_append, List.append_assoc, List.cons_append,
      List.cons_append, List.append_assoc]
    exact finds_function (fun _ => functionHeader_yields hnames hbrief.1)
      (code_written body hbrief.2 [] vs rest p' hvs)
  | .result none, _ => by
    intro ts rest hts _
    obtain ⟨q, _, rfl, hlast⟩ := laid_cons.mp hts
    obtain ⟨r, rfl⟩ := laid_singleton.mp hlast
    exact finds_resultNull
  | .result (some e), hbrief => by
    intro ts rest hts _
    obtain ⟨q, _, rfl, hvalue⟩ := laid_cons.mp hts
    obtain ⟨us, _, rfl, hus, hlast⟩ := laid_append.mp hvalue
    obtain ⟨r, rfl⟩ := laid_singleton.mp hlast
    rw [List.cons_append, List.append_assoc]
    have hend : Laid (e.written ++ []) us := by rwa [List.append_nil]
    exact finds_result (e.parses hbrief us (_ :: rest) hus rfl) (opensExpression_found hend)
  | .leaveLoop, _ => by
    intro ts rest hts _
    obtain ⟨q, _, rfl, hlast⟩ := laid_cons.mp hts
    obtain ⟨r, rfl⟩ := laid_singleton.mp hlast
    exact finds_leaveLoop
  | .nextTurn, _ => by
    intro ts rest hts _
    obtain ⟨q, _, rfl, hlast⟩ := laid_cons.mp hts
    obtain ⟨r, rfl⟩ := laid_singleton.mp hlast
    exact finds_nextTurn

/-- The tokens of an `else` are read as what is done otherwise. -/
theorem otherwise_written : (o : Otherwise) → o.isBrief → o.Parses
  | .nothing, _ => by
    intro c body ts mid us rest hus helse hcondition hbody
    obtain rfl := laid_nil.mp hus
    exact finds_noElse hcondition hbody helse
  | .block body', hbrief => by
    intro c body ts mid us rest hus _ hcondition hbody
    obtain ⟨q, us, rfl, hmore⟩ := laid_cons.mp hus
    refine finds_elseBlock hcondition hbody ?_ ((code_written body' hbrief).braced hmore)
    obtain ⟨r, vs, r', rfl, -⟩ := laid_inBraces.mp hmore
    rfl
  | .branch c' body' o, hbrief => by
    intro c body ts mid us rest hus helse hcondition hbody
    simp only [Otherwise.isBrief, Bool.and_eq_true] at hbrief
    obtain ⟨⟨hc, hbody'⟩, ho⟩ := hbrief
    obtain ⟨q, _, rfl, hif⟩ := laid_cons.mp hus
    obtain ⟨q', _, rfl, hmore⟩ := laid_cons.mp hif
    obtain ⟨cs, _, rfl, hcs, hmore'⟩ := laid_append.mp hmore
    obtain ⟨bs, os, rfl, hbs, hos⟩ := laid_append.mp hmore'
    rw [List.cons_append, List.cons_append, List.append_assoc, List.append_assoc] at hbody
    exact finds_elseIf hcondition hbody (otherwise_written o ho c' body' _ _ os rest hos helse
      (c'.parses hc cs _ hcs (closes_inBraces hbs)) ((code_written body' hbody').braced hbs))

/-- The tokens of statements are read as those statements. -/
theorem code_written : (code : Code) → Code.isBrief code → Code.Parses code
  | [], _ => by
    intro done ts rest q hts
    obtain rfl := laid_nil.mp hts
    refine finds_of_yields fun g room => ⟨Nat.lt_succ_self _, ?_⟩
    rw [blockBody.eq_def]
    simp [isSymbol]
  | s :: code, hbrief => by
    rw [Code.isBrief, Bool.and_eq_true] at hbrief
    exact Code.parses_cons (statement_written s hbrief.1) (code_written code hbrief.2)

end

/-- The tokens of statements are read as those statements up to the end of
the text. -/
lemma declarations_written (h : Code.isBrief code) (done : List Stmt)
    (hts : Laid (Code.written code) ts) : ∀ᶠ limit in atTop, ∀ g : Grammar, g.limit = limit →
      g.declarations done ts = .ok (done.reverse ++ code) := by
  induction code generalizing done ts with
  | nil =>
    obtain rfl := laid_nil.mp hts
    refine .of_forall fun limit g _ => ?_
    rw [declarations.eq_def]
    simp
  | cons s code ih =>
    rw [Code.isBrief, Bool.and_eq_true] at h
    obtain ⟨us, vs, rfl, hus, hvs⟩ := laid_append.mp hts
    have hnext : isKeyword .elseWord (found (vs ++ [])) = false := not_else_written hvs rfl
    rw [List.append_nil] at hnext
    have hdeclaration := finds_declaration (statement_written s h.1 us vs hus hnext)
    have hlater := ih h.2 (s :: done) hvs
    obtain ⟨k, more, hwritten, -⟩ := s.exists_written
    rw [hwritten] at hus
    obtain ⟨q, us, rfl, -⟩ := laid_cons.mp hus
    filter_upwards [hdeclaration, hlater] with limit hdeclaration hlater g hlimit
    obtain ⟨hl, hdeclaration⟩ := hdeclaration g
    have hlater := hlater g hlimit
    rw [declarations.eq_def]
    simp only [List.cons_append, hlimit] at hdeclaration ⊢
    simp only [hdeclaration, hlater]
    simp

/-- No two scripts are written with the same tokens. -/
theorem written_injective {code' : Code} (h : Code.isBrief code) (h' : Code.isBrief code')
    (heq : Code.written code = Code.written code') : code = code' := by
  have hlaid : Laid (Code.written code) ((Code.written code).map Token.ofKind) := by
    rw [Laid, List.map_map]
    exact List.map_id _
  have hcode := declarations_written h [] hlaid
  rw [heq] at hlaid hcode
  have hcode' := declarations_written h' [] hlaid
  obtain ⟨limit, hread, hread'⟩ := (hcode.and hcode').exists
  have hread := hread ⟨limit, 1⟩ rfl
  rw [hread' ⟨limit, 1⟩ rfl] at hread
  simpa using hread.symm

/-- Parsing the tokens of a script gives back the script, if enough nesting
is allowed. -/
theorem parse_written (code : Code) (tokens : List Token) (hbrief : Code.isBrief code)
    (htokens : (Grammar.body tokens).map Token.kind = Code.written code) :
    ∃ depth, ∀ limit, depth ≤ limit → Code.parse limit tokens = .ok code := by
  have hall := declarations_written hbrief [] htokens
  obtain ⟨depth, hdepth⟩ := eventually_atTop.mp hall
  refine ⟨depth, fun limit hlimit => ?_⟩
  exact hdepth limit hlimit (ofTokens limit tokens) (ofTokens_limit limit tokens)

/-- A script in which brackets are needed around an object, a lambda, a sum and
a difference. -/
def bracketedCode : Code :=
  [.expr (.member (.object [("a", .lambda [] (.binary .or (.name "x") (.name "y")))]) "a"),
    .branch (.unary .not (.lambda ["x"] (.name "x"))) [.declare "y" none]
      (.branch (.binary .sub (.name "x") (.binary .sub (.name "y") (.unary .neg (.name "z")))) []
        (.block [.result none])),
    .assign "y" (.call (.binary .add (.name "x") (.literal .null))
      [.lambda ["p", "q"] (.array [])])]

/-- Its tokens. -/
def bracketedTokens : List Token :=
  [.symbol .leftParen, .symbol .leftBrace, .literal (.text "a"), .symbol .colon, .symbol .either,
    .name "x", .symbol .either, .name "y", .symbol .rightBrace, .symbol .dot, .name "a",
    .symbol .rightParen, .symbol .semicolon,
    .keyword .ifWord, .symbol .bang, .symbol .leftParen, .symbol .pipe, .name "x", .symbol .pipe,
    .name "x", .symbol .rightParen, .symbol .leftBrace, .keyword .letWord, .name "y",
    .symbol .semicolon, .symbol .rightBrace,
    .keyword .elseWord, .keyword .ifWord, .name "x", .symbol .minus, .symbol .leftParen,
    .name "y", .symbol .minus, .symbol .minus, .name "z", .symbol .rightParen, .symbol .leftBrace,
    .symbol .rightBrace, .keyword .elseWord, .symbol .leftBrace, .keyword .returnWord,
    .symbol .semicolon, .symbol .rightBrace,
    .name "y", .symbol .assign, .symbol .leftParen, .name "x", .symbol .plus, .literal .null,
    .symbol .rightParen, .symbol .leftParen, .symbol .pipe, .name "p", .symbol .comma, .name "q",
    .symbol .pipe, .symbol .leftBracket, .symbol .rightBracket, .symbol .rightParen,
    .symbol .semicolon, .endOfText].map .ofKind

theorem parse_bracketedTokens : Code.isBrief bracketedCode
    ∧ (Grammar.body bracketedTokens).map Token.kind = Code.written bracketedCode
    ∧ ∃ depth, ∀ limit, depth ≤ limit → Code.parse limit bracketedTokens = .ok bracketedCode :=
  ⟨rfl, rfl, parse_written bracketedCode bracketedTokens rfl rfl⟩

end Scripts

end MockupStudio.Script
