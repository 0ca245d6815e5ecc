/-
The parser follows the rules of the grammar.

* `Follows`: on so many levels, whatever a function of the parser returns has
  been read by the rule of that function;
* `follows`: so it is on every number of levels, by induction on it; from one
  function to the next the lemmas go in the order in which the functions call
  each other;
* `Code.reads_of_parse`, `Expr.reads_of_parse`: whole token lists.

What a parse guarantees is proved by induction on `Reads`, without opening
the parser again.
-/
import MockupStudio.Proofs.Script.Rules

namespace MockupStudio.Script

namespace Grammar

/-- On so many levels the functions for expressions follow their rules. -/
structure Follows (g : Grammar) (room : Nat) : Prop where
  expression : ∀ {ts rest e hl}, g.expression room ts = .ok ⟨e, rest, hl⟩ →
    Reads room (.expression e) ts rest
  precedence : ∀ {least ts rest e hl}, g.precedence room least ts = .ok ⟨e, rest, hl⟩ →
    Reads room (.precedence least e) ts rest
  operators : ∀ {least left ts rest e hl}, g.operators room least left ts = .ok ⟨e, rest, hl⟩ →
    Reads room (.operators least left e) ts rest
  unary : ∀ {ts rest e hl}, g.unary room ts = .ok ⟨e, rest, hl⟩ → Reads room (.unary e) ts rest
  links : ∀ {base ts rest e hl}, g.links room base ts = .ok ⟨e, rest, hl⟩ →
    Reads room (.links base e) ts rest
  callArguments : ∀ {ts rest es hl}, g.callArguments room ts = .ok ⟨es, rest, hl⟩ →
    Reads room (.callArguments es) ts rest

section Expressions

variable {g : Grammar} {room : Nat}

/-! ### What is read on the same level -/

/-- How the functions that read on the same level use expressions. -/
abbrev ReadsExpressions (g : Grammar) (room : Nat) : Prop :=
  ∀ {ts rest e hl}, g.expression room ts = .ok ⟨e, rest, hl⟩ → Reads room (.expression e) ts rest

lemma arguments_reads (he : ReadsExpressions g room) {done es : List Expr}
    {ts rest : List Token} {hl : rest.length < ts.length}
    (h : g.arguments room done ts = .ok ⟨es, rest, hl⟩) :
    ∃ new, es = done.reverse ++ new ∧ Reads room (.arguments new) ts rest := by
  rw [arguments.eq_def] at h
  split at h
  · cases h
  · split at h
    · cases h
    · next e t after hlt hx =>
      have harg := he hx
      split at h
      · next hm =>
        rw [eq_of_isSymbol hm] at harg
        split at h
        · cases h
          exact ⟨[e], by simp, .lastArgument harg .there⟩
        · split at h
          · cases h
          · next hmore =>
            cases h
            obtain ⟨new, rfl, hread⟩ := arguments_reads he hmore
            exact ⟨e :: new, by simp, .argument harg hread⟩
      · cases h
        exact ⟨[e], by simp, .lastArgument harg .missing⟩
    · next e hlt hx =>
      cases h
      exact ⟨[e], by simp, .lastArgument (he hx) .missing⟩
termination_by ts.length
decreasing_by all_goals grind

lemma items_reads (he : ReadsExpressions g room) {done es : List Expr}
    {ts rest : List Token} {hl : rest.length < ts.length}
    (h : g.items room done ts = .ok ⟨es, rest, hl⟩) :
    ∃ new, es = done.reverse ++ new ∧ Reads room (.items new) ts rest := by
  rw [items.eq_def] at h
  split at h
  · obtain ⟨_, _, _, hclose, heq⟩ := map_ok h
    cases heq
    obtain ⟨q, rfl⟩ := symbol_ok hclose
    exact ⟨[], by simp, .noItems⟩
  · split at h
    · cases h
    · next e mid hlt hx =>
      have hitem := he hx
      split at h
      · next hcomma =>
        obtain ⟨q, rfl⟩ := skipSymbol_true hcomma
        split at h
        · cases h
        · next hmore =>
          cases h
          obtain ⟨new, rfl, hread⟩ := items_reads he hmore
          exact ⟨e :: new, by simp, .item hitem hread⟩
      · next hcomma =>
        obtain rfl := skipSymbol_false hcomma
        split at h
        · cases h
        · next hclose =>
          cases h
          obtain ⟨q, rfl⟩ := symbol_ok hclose
          exact ⟨[e], by simp, .lastItem hitem⟩
termination_by ts.length
decreasing_by all_goals grind

lemma members_reads (he : ReadsExpressions g room) {done ms : List (String × Expr)}
    {ts rest : List Token} {hl : rest.length < ts.length}
    (h : g.members room done ts = .ok ⟨ms, rest, hl⟩) :
    ∃ new, ms = done.reverse ++ new ∧ Reads room (.members new) ts rest := by
  rw [members.eq_def] at h
  split at h
  · obtain ⟨_, _, _, hclose, heq⟩ := map_ok h
    cases heq
    obtain ⟨q, rfl⟩ := symbol_ok hclose
    exact ⟨[], by simp, .noMembers⟩
  · split at h
    · cases h
    · next key mid hlt hkey =>
      obtain ⟨t, rfl, hread⟩ := propertyKey_ok hkey
      split at h
      · cases h
      · next hcolon =>
        obtain ⟨q, rfl⟩ := symbol_ok hcolon
        split at h
        · cases h
        · next e after hlt' hx =>
          have hvalue := he hx
          split at h
          · next hcomma =>
            obtain ⟨r, rfl⟩ := skipSymbol_true hcomma
            split at h
            · cases h
            · next hmore =>
              cases h
              obtain ⟨new, rfl, hnew⟩ := members_reads he hmore
              exact ⟨(key, e) :: new, by simp, .another hread hvalue hnew⟩
          · next hcomma =>
            obtain rfl := skipSymbol_false hcomma
            split at h
            · cases h
            · next hclose =>
              cases h
              obtain ⟨r, rfl⟩ := symbol_ok hclose
              exact ⟨[(key, e)], by simp, .lastMember hread hvalue⟩
termination_by ts.length
decreasing_by all_goals grind

lemma callArguments_reads (he : ReadsExpressions g room) {es : List Expr}
    {ts rest : List Token} {hl : rest.length < ts.length}
    (h : g.callArguments room ts = .ok ⟨es, rest, hl⟩) :
    Reads room (.callArguments es) ts rest := by
  rw [callArguments.eq_def] at h
  split at h
  · obtain ⟨_, _, _, hclose, heq⟩ := map_ok h
    cases heq
    obtain ⟨q, rfl⟩ := symbol_ok hclose
    exact .noArguments
  · split at h
    · cases h
    · next hargs =>
      obtain ⟨new, rfl, hread⟩ := arguments_reads he hargs
      split at h
      · cases h
      · next hclose =>
        cases h
        obtain ⟨q, rfl⟩ := symbol_ok hclose
        exact .callArguments hread

lemma primary_reads (he : ReadsExpressions g room) {e : Expr} {ts rest : List Token}
    {hl : rest.length < ts.length} (h : g.primary room ts = .ok ⟨e, rest, hl⟩) :
    Reads room (.primary e) ts rest := by
  rw [primary.eq_def] at h
  split at h
  · cases h
    exact .literal
  · cases h
    exact .name
  · split at h
    · cases h
    · next hx =>
      have hinner := he hx
      split at h
      · cases h
      · next hclose =>
        cases h
        obtain ⟨q, rfl⟩ := symbol_ok hclose
        exact .parens hinner
  · split at h
    · cases h
    · next hitems =>
      cases h
      obtain ⟨new, rfl, hread⟩ := items_reads he hitems
      exact .array hread
  · split at h
    · cases h
    · next hmembers =>
      cases h
      obtain ⟨new, rfl, hread⟩ := members_reads he hmembers
      exact .object hread
  · split at h
    · cases h
    · next hx =>
      cases h
      exact .thunk (he hx)
  · split at h
    · cases h
    · next hnames =>
      have hread := parameters_names hnames
      split at h
      · cases h
      · next hpipe =>
        obtain ⟨q, rfl⟩ := symbol_ok hpipe
        split at h
        · cases h
        · next hx =>
          cases h
          exact .lambda hread (he hx)
  · cases h

/-! ### What takes a level -/

lemma expression_reads (below : ∀ k < room, Follows g k) : ReadsExpressions g room := by
  intro ts rest e hl h
  rw [expression.eq_def] at h
  split at h
  · cases h
  · exact .expression ((below _ (Nat.lt_succ_self _)).precedence h)

lemma links_reads (below : ∀ k < room, Follows g k) {base e : Expr} {ts rest : List Token}
    {hl : rest.length < ts.length + 1} (h : g.links room base ts = .ok ⟨e, rest, hl⟩) :
    Reads room (.links base e) ts rest := by
  rw [links.eq_def] at h
  split at h
  · split at h
    · cases h
    · have ih := below _ (Nat.lt_succ_self _)
      split at h
      · cases h
      · next hargs =>
        split at h
        · cases h
        · next hmore =>
          cases h
          exact .call (ih.callArguments hargs) (ih.links hmore)
  · split at h
    · cases h
    · have ih := below _ (Nat.lt_succ_self _)
      split at h
      · cases h
      · next hname =>
        obtain ⟨q, rfl⟩ := name_ok hname
        split at h
        · cases h
        · next hmore =>
          cases h
          exact .member (ih.links hmore)
  · split at h
    · cases h
    · have ih := below _ (Nat.lt_succ_self _)
      split at h
      · cases h
      · next hkey =>
        have hread := ih.expression hkey
        split at h
        · cases h
        · next hclose =>
          obtain ⟨q, rfl⟩ := symbol_ok hclose
          split at h
          · cases h
          · next hmore =>
            cases h
            exact .index hread (ih.links hmore)
  · cases h
    exact .noLink

lemma chain_reads (below : ∀ k < room, Follows g k) {e : Expr} {ts rest : List Token}
    {hl : rest.length < ts.length} (h : g.chain room ts = .ok ⟨e, rest, hl⟩) :
    Reads room (.chain e) ts rest := by
  rw [chain.eq_def] at h
  split at h
  · cases h
  · next hbase =>
    split at h
    · cases h
    · next hlinks =>
      cases h
      exact .chain (primary_reads (expression_reads below) hbase) (links_reads below hlinks)

lemma unary_reads (below : ∀ k < room, Follows g k) {e : Expr} {ts rest : List Token}
    {hl : rest.length < ts.length} (h : g.unary room ts = .ok ⟨e, rest, hl⟩) :
    Reads room (.unary e) ts rest := by
  rw [unary.eq_def] at h
  split at h
  · split at h
    · exact .noSign (chain_reads below h)
    · next hop =>
      split at h
      · cases h
      · split at h
        · cases h
        · next hmore =>
          cases h
          exact .sign hop ((below _ (Nat.lt_succ_self _)).unary hmore)
  · exact .noSign (chain_reads below h)

lemma operators_reads (below : ∀ k < room, Follows g k) {least : Nat} {left e : Expr}
    {ts rest : List Token} {hl : rest.length < ts.length + 1}
    (h : g.operators room least left ts = .ok ⟨e, rest, hl⟩) :
    Reads room (.operators least left e) ts rest := by
  rw [operators.eq_def] at h
  split at h
  · split at h
    · next hop =>
      cases h
      refine .noOperator ?_
      rintro ⟨m, q, after, op, heq, hop', -⟩
      cases heq
      rw [hop] at hop'
      cases hop'
    · next op hop =>
      split at h
      · next hlt =>
        cases h
        refine .noOperator ?_
        rintro ⟨m, q, after, op', heq, hop', hle⟩
        cases heq
        rw [hop] at hop'
        cases hop'
        omega
      · next hge =>
        split at h
        · cases h
        · have ih := below _ (Nat.lt_succ_self _)
          split at h
          · cases h
          · next hright =>
            split at h
            · cases h
            · next hmore =>
              cases h
              exact .operator hop (by omega) (ih.precedence hright) (ih.operators hmore)
  · next hnone =>
    cases h
    refine .noOperator ?_
    rintro ⟨m, q, after, op, rfl, -⟩
    exact hnone _ _ _ rfl

lemma precedence_reads (below : ∀ k < room, Follows g k) {least : Nat} {e : Expr}
    {ts rest : List Token} {hl : rest.length < ts.length}
    (h : g.precedence room least ts = .ok ⟨e, rest, hl⟩) :
    Reads room (.precedence least e) ts rest := by
  rw [precedence.eq_def] at h
  split at h
  · cases h
  · next hleft =>
    split at h
    · cases h
    · next hmore =>
      cases h
      exact .precedence (unary_reads below hleft) (operators_reads below hmore)

/-- The functions for expressions follow their rules on any number of levels. -/
lemma follows (g : Grammar) (room : Nat) : Follows g room := by
  induction room using Nat.strongRecOn with
  | ind room below =>
    exact {
      expression := expression_reads below
      precedence := precedence_reads below
      operators := operators_reads below
      unary := unary_reads below
      links := links_reads below
      callArguments := callArguments_reads (expression_reads below) }

end Expressions

/-! ### Statements without inner statements -/

section Statements

variable {g : Grammar} {room : Nat}

lemma variableDeclaration_reads {s : Stmt} {ts rest : List Token} {hl : rest.length < ts.length}
    (q : Position) (h : g.variableDeclaration room ts = .ok ⟨s, rest, hl⟩) :
    Reads room (.statement s) (⟨.keyword .letWord, q⟩ :: ts) rest := by
  rw [variableDeclaration.eq_def] at h
  split at h
  · cases h
  · next hname =>
    obtain ⟨r, rfl⟩ := name_ok hname
    split at h
    · next hassign =>
      obtain rfl := skipSymbol_false hassign
      split at h
      · cases h
      · next hend =>
        cases h
        exact .declareNull (statementEnd_ends hend)
    · next hassign =>
      obtain ⟨r', rfl⟩ := skipSymbol_true hassign
      split at h
      · cases h
      · next hx =>
        split at h
        · cases h
        · next hend =>
          cases h
          exact .declare ((follows g room).expression hx) (statementEnd_ends hend)

lemma expressionStatement_reads {s : Stmt} {ts rest : List Token} {hl : rest.length < ts.length}
    (h : g.expressionStatement room ts = .ok ⟨s, rest, hl⟩) :
    Reads room (.statement s) ts rest := by
  rw [expressionStatement.eq_def] at h
  split at h
  · cases h
  · next hx =>
    have hread := (follows g room).expression hx
    split at h
    · next hassign =>
      obtain rfl := skipSymbol_false hassign
      split at h
      · cases h
      · next hend =>
        cases h
        exact .value hread (statementEnd_ends hend)
    · next hassign =>
      obtain ⟨q, rfl⟩ := skipSymbol_true hassign
      split at h
      · cases h
      · next hvalue =>
        split at h
        · cases h
        · next hend =>
          split at h
          · cases h
            exact .assign hread ((follows g room).expression hvalue) (statementEnd_ends hend)
          · cases h

lemma returnStatement_reads {s : Stmt} {ts rest : List Token} {hl : rest.length < ts.length + 1}
    (q : Position) (h : g.returnStatement room ts = .ok ⟨s, rest, hl⟩) :
    Reads room (.statement s) (⟨.keyword .returnWord, q⟩ :: ts) rest := by
  rw [returnStatement] at h
  split at h
  · obtain ⟨_, _, _, hend, heq⟩ := map_ok h
    cases heq
    exact .resultNull (statementEnd_ends hend)
  · split at h
    · cases h
    · next hx =>
      split at h
      · cases h
      · next hend =>
        cases h
        exact .result ((follows g room).expression hx) (statementEnd_ends hend)

/-- The header of a loop over items, read from the tokens after `for`. -/
lemma loopHeader_reads {x : String} {source : Expr} {ts rest : List Token}
    {hl : rest.length < ts.length} (h : g.loopHeader room ts = .ok ⟨(x, source), rest, hl⟩) :
    ∃ bracketed b ts₁ ts₂ ts₃ ts₄ q q',
      Perhaps (.symbol .leftParen) bracketed ts ts₁ ∧ Perhaps (.keyword .letWord) b ts₁ ts₂
        ∧ ts₂ = ⟨.name x, q⟩ :: ⟨.keyword .inWord, q'⟩ :: ts₃
        ∧ Reads room (.expression source) ts₃ ts₄
        ∧ Perhaps (.symbol .rightParen) bracketed ts₄ rest := by
  rw [loopHeader.eq_def] at h
  split at h
  next bracketed ts₁ hl₁ hparen =>
  split at h
  next b ts₂ hl₂ hlet =>
  split at h
  · cases h
  · next hname =>
    obtain ⟨q, rfl⟩ := name_ok hname
    split at h
    · cases h
    · next hin =>
      obtain ⟨q', rfl⟩ := keyword_ok hin
      split at h
      · cases h
      · next hx =>
        have hread := (follows g room).expression hx
        split at h
        · next hb =>
          subst hb
          split at h
          · cases h
          · next hclose =>
            cases h
            obtain ⟨r, rfl⟩ := symbol_ok hclose
            exact ⟨_, _, _, _, _, _, _, _, skipSymbol_perhaps hparen, skipKeyword_perhaps hlet,
              rfl, hread, .there⟩
        · next hb =>
          cases h
          obtain rfl : bracketed = false := by simpa using hb
          exact ⟨_, _, _, _, _, _, _, _, skipSymbol_perhaps hparen, skipKeyword_perhaps hlet,
            rfl, hread, .missing⟩

/-- The header of a function, read from the tokens after `fn`. -/
lemma functionHeader_reads {x : String} {xs : List String} {ts rest : List Token}
    {hl : rest.length < ts.length} (h : g.functionHeader ts = .ok ⟨(x, xs), rest, hl⟩) :
    ∃ mid q q' r r', ts = ⟨.name x, q⟩ :: ⟨.symbol .leftParen, q'⟩ :: mid
      ∧ Names xs mid (⟨.symbol .rightParen, r⟩ :: ⟨.symbol .leftBrace, r'⟩ :: rest) := by
  rw [functionHeader.eq_def] at h
  split at h
  · cases h
  · next hname =>
    obtain ⟨q, rfl⟩ := name_ok hname
    split at h
    · cases h
    · next hopen =>
      obtain ⟨q', rfl⟩ := symbol_ok hopen
      split at h
      · cases h
      · next hnames =>
        have hread := parameters_names hnames
        split at h
        · cases h
        · next hclose =>
          obtain ⟨r, rfl⟩ := symbol_ok hclose
          split at h
          · cases h
          · next hbrace =>
            cases h
            obtain ⟨r', rfl⟩ := symbol_ok hbrace
            exact ⟨_, q, q', r, r', rfl, hread⟩

/-! ### Statements -/

/-- On so many levels the functions for statements follow their rules. -/
structure FollowsStatements (g : Grammar) (room : Nat) : Prop where
  statement : ∀ {ts rest s hl}, g.statement room ts = .ok ⟨s, rest, hl⟩ →
    Reads room (.statement s) ts rest
  branches : ∀ {ts rest c code o hl}, g.branches room ts = .ok ⟨(c, code, o), rest, hl⟩ →
    Reads room (.branches c code o) ts rest

lemma declaration_reads (below : ∀ k < room, FollowsStatements g k) {s : Stmt}
    {ts rest : List Token} {hl : rest.length < ts.length}
    (h : g.declaration room ts = .ok ⟨s, rest, hl⟩) : Reads room (.declaration s) ts rest := by
  rw [declaration.eq_def] at h
  split at h
  · cases h
  · exact .declaration ((below _ (Nat.lt_succ_self _)).statement h)

lemma blockBody_reads (below : ∀ k < room, FollowsStatements g k) {done code : List Stmt}
    {ts rest : List Token} {hl : rest.length < ts.length}
    (h : g.blockBody room done ts = .ok ⟨code, rest, hl⟩) :
    ∃ new, code = done.reverse ++ new ∧ Reads room (.block new) ts rest := by
  rw [blockBody.eq_def] at h
  split at h
  · cases h
  · split at h
    · next hbrace =>
      cases h
      rw [eq_of_isSymbol hbrace]
      exact ⟨[], by simp, .endBlock⟩
    · split at h
      · cases h
      · next s _ _ hs =>
        have hread := declaration_reads below hs
        split at h
        · cases h
        · next hmore =>
          cases h
          obtain ⟨new, rfl, hnew⟩ := blockBody_reads below hmore
          exact ⟨s :: new, by simp, .next hread hnew⟩
termination_by ts.length
decreasing_by all_goals grind

lemma braced_reads (below : ∀ k < room, FollowsStatements g k) {what : Expectation}
    {code : List Stmt} {ts rest : List Token} {hl : rest.length < ts.length}
    (h : g.braced what room ts = .ok ⟨code, rest, hl⟩) :
    ∃ q mid, ts = ⟨.symbol .leftBrace, q⟩ :: mid ∧ Reads room (.block code) mid rest := by
  rw [braced.eq_def] at h
  split at h
  · cases h
  · next hbrace =>
    obtain ⟨q, rfl⟩ := symbol_ok hbrace
    split at h
    · cases h
    · next hblock =>
      cases h
      obtain ⟨new, rfl, hread⟩ := blockBody_reads below hblock
      exact ⟨q, _, rfl, hread⟩

lemma branches_reads (below : ∀ k < room, FollowsStatements g k) {c : Expr} {code : List Stmt}
    {o : Otherwise} {ts rest : List Token} {hl : rest.length < ts.length}
    (h : g.branches room ts = .ok ⟨(c, code, o), rest, hl⟩) :
    Reads room (.branches c code o) ts rest := by
  rw [branches.eq_def] at h
  split at h
  · cases h
  · next hx =>
    have hc := (follows g room).expression hx
    split at h
    · cases h
    · next hbody =>
      obtain ⟨q, mid, rfl, hcode⟩ := braced_reads below hbody
      split at h
      · next helse =>
        cases h
        obtain rfl := skipKeyword_false helse
        exact .noElse hc hcode
      · next helse =>
        obtain ⟨r, rfl⟩ := skipKeyword_true helse
        split at h
        · next hif =>
          obtain rfl := skipKeyword_false hif
          split at h
          · cases h
          · next helseBody =>
            cases h
            obtain ⟨r', mid', rfl, hcode'⟩ := braced_reads below helseBody
            exact .elseBlock hc hcode hcode'
        · next hif =>
          obtain ⟨r', rfl⟩ := skipKeyword_true hif
          split at h
          · cases h
          · split at h
            · cases h
            · next hmore =>
              cases h
              exact .elseIf hc hcode ((below _ (Nat.lt_succ_self _)).branches hmore)

lemma statement_reads (below : ∀ k < room, FollowsStatements g k) {s : Stmt}
    {ts rest : List Token} {hl : rest.length < ts.length}
    (h : g.statement room ts = .ok ⟨s, rest, hl⟩) : Reads room (.statement s) ts rest := by
  rw [statement.eq_def] at h
  split at h
  · obtain ⟨_, _, _, hlet, heq⟩ := map_ok h
    cases heq
    exact variableDeclaration_reads _ hlet
  · split at h
    · cases h
    · next hheader =>
      obtain ⟨mid, q, q', r, r', rfl, hnames⟩ := functionHeader_reads hheader
      split at h
      · cases h
      · next hblock =>
        cases h
        obtain ⟨new, rfl, hread⟩ := blockBody_reads below hblock
        exact .function hnames hread
  · split at h
    · cases h
    · next hbranches =>
      cases h
      exact .branch (branches_reads below hbranches)
  · split at h
    · cases h
    · next hx =>
      have hc := (follows g room).expression hx
      split at h
      · cases h
      · next hbody =>
        cases h
        obtain ⟨q, mid, rfl, hread⟩ := braced_reads below hbody
        exact .loop hc hread
  · split at h
    · cases h
    · next hheader =>
      obtain ⟨_, _, _, _, _, _, _, _, hparen, hlet, rfl, hx, hclose⟩ := loopHeader_reads hheader
      split at h
      · cases h
      · next hbody =>
        cases h
        obtain ⟨q, mid, rfl, hread⟩ := braced_reads below hbody
        exact .each hparen hlet rfl hx hclose hread
  · obtain ⟨_, _, _, hreturn, heq⟩ := map_ok h
    cases heq
    exact returnStatement_reads _ hreturn
  · obtain ⟨_, _, _, hend, heq⟩ := map_ok h
    cases heq
    exact .leaveLoop (statementEnd_ends hend)
  · obtain ⟨_, _, _, hend, heq⟩ := map_ok h
    cases heq
    exact .nextTurn (statementEnd_ends hend)
  · split at h
    · exact expressionStatement_reads h
    · split at h
      · cases h
      · next hblock =>
        cases h
        obtain ⟨new, rfl, hread⟩ := blockBody_reads below hblock
        exact .braces hread
  · exact expressionStatement_reads h

/-- The functions for statements follow their rules on any number of levels. -/
lemma followsStatements (g : Grammar) (room : Nat) : FollowsStatements g room := by
  induction room using Nat.strongRecOn with
  | ind room below => exact ⟨statement_reads below, branches_reads below⟩

lemma declarations_readsAll {done code : Code} {ts : List Token}
    (h : g.declarations done ts = .ok code) :
    ∃ new, code = done.reverse ++ new ∧ ReadsAll g.limit new ts := by
  rw [declarations.eq_def] at h
  split at h
  · cases h
    exact ⟨[], by simp, .nil⟩
  · split at h
    · cases h
    · next s _ _ hs =>
      have hread := declaration_reads (fun k _ => followsStatements g k) hs
      obtain ⟨new, rfl, hnew⟩ := declarations_readsAll h
      exact ⟨s :: new, by simp, .cons hread hnew⟩
termination_by ts.length
decreasing_by all_goals grind

end Statements

@[simp] lemma ofTokens_limit (limit : Nat) (tokens : List Token) :
    (ofTokens limit tokens).limit = limit := by
  rw [ofTokens]
  split <;> rfl

end Grammar

open Grammar

/-- A parsed script has been read by the rules, all of its tokens up to the
first end of text. -/
theorem Code.reads_of_parse {limit : Nat} {tokens : List Token} {code : Code}
    (h : Code.parse limit tokens = .ok code) : ReadsAll limit code (body tokens) := by
  obtain ⟨new, rfl, hread⟩ := declarations_readsAll h
  simpa using hread

/-- A parsed expression has been read by the rules, all of its tokens up to
the first end of text. -/
theorem Expr.reads_of_parse {limit : Nat} {tokens : List Token} {e : Expr}
    (h : Expr.parse limit tokens = .ok e) : Reads limit (.expression e) (body tokens) [] := by
  rw [Expr.parse] at h
  split at h
  · cases h
  · next hx =>
    cases h
    exact (follows _ _).expression hx
  · cases h

end MockupStudio.Script
