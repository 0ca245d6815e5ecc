/-
More levels cut nothing off that fewer levels let through.

* `CutShort`: a part of the parser ends as another one does, or for want of a
  level;
* `Outlasts`: on so many levels the functions for expressions end as they do on
  more levels under another limit, or for want of a level; `outlasts` proves it
  by induction on the levels, the lemmas going in the order in which the
  functions call each other;
* `OutlastsStatements`: the same for statements;
* `parse_eq_of_larger_limit`: what is parsed or refused within a limit is so
  within a larger one, the refusals for the nesting alone excepted.
-/
import MockupStudio.Proofs.Script.Reading

namespace MockupStudio.Script

namespace Grammar

/-- An end for want of a level, or the same end. -/
inductive CutShort : Except ParseError α → Except ParseError α → Prop where
  | same (r) : CutShort r r
  | tooDeep : CutShort (.error (.tooDeep n n')) r

section CutShort

variable {α β : Type} {n k : Nat} {r r' : Except ParseError (Parsed α n)}

/-- A part of the parser that does not look at the limit, told by its end. -/
@[elab_as_elim]
lemma parsedCases {motive : Except ParseError (Parsed α n) → Prop}
    (r : Except ParseError (Parsed α n)) (error : ∀ e, motive (.error e))
    (ok : ∀ a rest hl, motive (.ok ⟨a, rest, hl⟩)) : motive r := by
  cases r with
  | error e => exact error e
  | ok p => exact ok p.value p.rest p.shorter

/-- Two parts of which the first may be cut short, told by their ends. -/
@[elab_as_elim]
lemma CutShort.elim {motive : Except ParseError (Parsed α n) → Except ParseError (Parsed α n) → Prop}
    (h : CutShort r r') (tooDeep : ∀ n n' r, motive (.error (.tooDeep n n')) r)
    (error : ∀ e, motive (.error e) (.error e))
    (ok : ∀ a rest hl, motive (.ok ⟨a, rest, hl⟩) (.ok ⟨a, rest, hl⟩)) : motive r r' := by
  cases h with
  | same => exact parsedCases r error ok
  | tooDeep => exact tooDeep _ _ _

lemma CutShort.map (f : Parsed α n → Parsed β k) (h : CutShort r r') :
    CutShort (r.map f) (r'.map f) := by
  cases h with
  | same => exact .same _
  | tooDeep => exact .tooDeep

end CutShort

/-! ### Parameters -/

section Parameters

variable (d e line : Nat) (ts : List Token)

lemma cutShort_parametersFrom (done : List String) (ts : List Token) :
    CutShort ((mk d line).parametersFrom done ts) ((mk e line).parametersFrom done ts) := by
  rw [parametersFrom.eq_def, parametersFrom.eq_def]
  split
  · exact .same _
  · refine parsedCases ((mk d line).name .parameterName ts) (fun _ => .same _) fun x rest hl => ?_
    cases rest with
    | nil => exact .same _
    | cons t rest =>
      dsimp only
      split
      · exact (cutShort_parametersFrom (x :: done) rest).elim (fun _ _ _ => .tooDeep)
          (fun _ => .same _) fun _ _ _ => .same _
      · exact .same _
termination_by ts.length
decreasing_by simp only [List.length_cons] at hl; omega

lemma cutShort_parameters (close : Symbol) :
    CutShort ((mk d line).parameters close ts) ((mk e line).parameters close ts) := by
  rw [parameters, parameters]
  split
  · exact .same _
  · exact (cutShort_parametersFrom d e line [] ts).map _

lemma cutShort_functionHeader :
    CutShort ((mk d line).functionHeader ts) ((mk e line).functionHeader ts) := by
  rw [functionHeader.eq_def, functionHeader.eq_def]
  refine parsedCases ((mk d line).name .functionName ts) (fun _ => .same _) fun x rest _ => ?_
  dsimp only
  refine parsedCases ((mk d line).symbol .leftParen .parenAfterFunctionName rest)
    (fun _ => .same _) fun _ rest _ => ?_
  dsimp only
  exact (cutShort_parameters d e line rest .rightParen).elim (fun _ _ _ => .tooDeep)
    (fun _ => .same _) fun _ _ _ => .same _

end Parameters

/-! ### Expressions -/

/-- On so many levels the functions for expressions end as they do on more
levels under another limit, or for want of a level. -/
structure Outlasts (d e line room : Nat) : Prop where
  precedence : ∀ {room'}, room ≤ room' → ∀ least ts,
    CutShort ((mk d line).precedence room least ts) ((mk e line).precedence room' least ts)
  operators : ∀ {room'}, room ≤ room' → ∀ least left ts,
    CutShort ((mk d line).operators room least left ts) ((mk e line).operators room' least left ts)
  unary : ∀ {room'}, room ≤ room' → ∀ ts,
    CutShort ((mk d line).unary room ts) ((mk e line).unary room' ts)
  links : ∀ {room'}, room ≤ room' → ∀ base ts,
    CutShort ((mk d line).links room base ts) ((mk e line).links room' base ts)
  expression : ∀ {room'}, room ≤ room' → ∀ ts,
    CutShort ((mk d line).expression room ts) ((mk e line).expression room' ts)
  callArguments : ∀ {room'}, room ≤ room' → ∀ ts,
    CutShort ((mk d line).callArguments room ts) ((mk e line).callArguments room' ts)

section Expressions

variable {d e line room room' : Nat}

/-- How the functions that read on the same level use expressions. -/
abbrev CutsExpressions (d e line room room' : Nat) : Prop :=
  ∀ ts, CutShort ((mk d line).expression room ts) ((mk e line).expression room' ts)

lemma cutShort_arguments (he : CutsExpressions d e line room room') (done : List Expr)
    (ts : List Token) :
    CutShort ((mk d line).arguments room done ts) ((mk e line).arguments room' done ts) := by
  rw [arguments.eq_def, arguments.eq_def]
  split
  · exact .same _
  · refine (he ts).elim (fun _ _ _ => .tooDeep) (fun _ => .same _) fun arg rest hl => ?_
    cases rest with
    | nil => exact .same _
    | cons t rest =>
      dsimp only
      split
      · split
        · exact .same _
        · exact (cutShort_arguments he (arg :: done) rest).elim (fun _ _ _ => .tooDeep)
            (fun _ => .same _) fun _ _ _ => .same _
      · exact .same _
termination_by ts.length
decreasing_by simp only [List.length_cons] at hl; omega

lemma cutShort_items (he : CutsExpressions d e line room room') (done : List Expr)
    (ts : List Token) :
    CutShort ((mk d line).items room done ts) ((mk e line).items room' done ts) := by
  rw [items.eq_def, items.eq_def]
  split
  · exact .same _
  · refine (he ts).elim (fun _ _ _ => .tooDeep) (fun _ => .same _) fun item rest hl => ?_
    dsimp only
    rcases skipSymbol .comma rest with ⟨_ | _, rest', hl'⟩
    · exact .same _
    · dsimp only
      exact (cutShort_items he (item :: done) rest').elim (fun _ _ _ => .tooDeep)
        (fun _ => .same _) fun _ _ _ => .same _
termination_by ts.length
decreasing_by omega

lemma cutShort_members (he : CutsExpressions d e line room room') (done : List (String × Expr))
    (ts : List Token) :
    CutShort ((mk d line).members room done ts) ((mk e line).members room' done ts) := by
  rw [members.eq_def, members.eq_def]
  split
  · exact .same _
  · refine parsedCases ((mk d line).propertyKey ts) (fun _ => .same _) fun key rest hl => ?_
    dsimp only
    refine parsedCases ((mk d line).symbol .colon .colonAfterProperty rest) (fun _ => .same _)
      fun _ rest' hl' => ?_
    dsimp only
    refine (he rest').elim (fun _ _ _ => .tooDeep) (fun _ => .same _) fun item rest'' hl'' => ?_
    dsimp only
    rcases skipSymbol .comma rest'' with ⟨_ | _, left, h₃⟩
    · exact .same _
    · dsimp only
      exact (cutShort_members he ((key, item) :: done) left).elim (fun _ _ _ => .tooDeep)
        (fun _ => .same _) fun _ _ _ => .same _
termination_by ts.length
decreasing_by omega

lemma cutShort_callArguments (he : CutsExpressions d e line room room') (ts : List Token) :
    CutShort ((mk d line).callArguments room ts) ((mk e line).callArguments room' ts) := by
  rw [callArguments.eq_def, callArguments.eq_def]
  split
  · exact .same _
  · exact (cutShort_arguments he [] ts).elim (fun _ _ _ => .tooDeep) (fun _ => .same _)
      fun _ _ _ => .same _

lemma cutShort_primary (he : CutsExpressions d e line room room') (ts : List Token) :
    CutShort ((mk d line).primary room ts) ((mk e line).primary room' ts) := by
  rw [primary.eq_def, primary.eq_def]
  split
  · exact .same _
  · exact .same _
  · next rest => exact (he rest).elim (fun _ _ _ => .tooDeep) (fun _ => .same _) fun _ _ _ => .same _
  · next rest =>
    exact (cutShort_items he [] rest).elim (fun _ _ _ => .tooDeep) (fun _ => .same _)
      fun _ _ _ => .same _
  · next rest =>
    exact (cutShort_members he [] rest).elim (fun _ _ _ => .tooDeep) (fun _ => .same _)
      fun _ _ _ => .same _
  · next rest => exact (he rest).elim (fun _ _ _ => .tooDeep) (fun _ => .same _) fun _ _ _ => .same _
  · next rest =>
    refine (cutShort_parameters d e line rest .pipe).elim (fun _ _ _ => .tooDeep)
      (fun _ => .same _) fun _ rest' _ => ?_
    dsimp only
    refine parsedCases ((mk d line).symbol .pipe .pipeAfterParameters rest') (fun _ => .same _)
      fun _ rest'' _ => ?_
    dsimp only
    exact (he rest'').elim (fun _ _ _ => .tooDeep) (fun _ => .same _) fun _ _ _ => .same _
  · exact .same _

/-! ### What takes a level -/

lemma cutShort_expression (below : ∀ k < room, Outlasts d e line k) (hroom : room ≤ room') :
    CutsExpressions d e line room room' := by
  intro ts
  rw [expression.eq_def, expression.eq_def]
  cases room with
  | zero => exact .tooDeep
  | succ room =>
    obtain ⟨room', rfl⟩ := Nat.exists_eq_add_one_of_ne_zero (Nat.ne_zero_of_lt hroom)
    exact (below room (Nat.lt_succ_self _)).precedence (Nat.le_of_succ_le_succ hroom) 1 ts

lemma cutShort_links (below : ∀ k < room, Outlasts d e line k) (hroom : room ≤ room')
    (base : Expr) (ts : List Token) :
    CutShort ((mk d line).links room base ts) ((mk e line).links room' base ts) := by
  rw [links.eq_def, links.eq_def]
  cases room with
  | zero => split <;> first | exact .tooDeep | exact .same _
  | succ room =>
    obtain ⟨room', rfl⟩ := Nat.exists_eq_add_one_of_ne_zero (Nat.ne_zero_of_lt hroom)
    have hroom := Nat.le_of_succ_le_succ hroom
    have ih := below room (Nat.lt_succ_self _)
    split
    · next rest =>
      dsimp only
      refine (ih.callArguments hroom rest).elim (fun _ _ _ => .tooDeep) (fun _ => .same _)
        fun args rest' _ => ?_
      dsimp only
      exact (ih.links hroom (.call base args) rest').elim (fun _ _ _ => .tooDeep)
        (fun _ => .same _) fun _ _ _ => .same _
    · next rest =>
      dsimp only
      refine parsedCases ((mk d line).name .memberName rest) (fun _ => .same _)
        fun key rest' _ => ?_
      dsimp only
      exact (ih.links hroom (.member base key) rest').elim (fun _ _ _ => .tooDeep)
        (fun _ => .same _) fun _ _ _ => .same _
    · next rest =>
      dsimp only
      refine (ih.expression hroom rest).elim (fun _ _ _ => .tooDeep) (fun _ => .same _)
        fun key rest' _ => ?_
      dsimp only
      refine parsedCases ((mk d line).symbol .rightBracket .bracketAfterIndex rest')
        (fun _ => .same _) fun _ rest'' _ => ?_
      dsimp only
      exact (ih.links hroom (.index base key) rest'').elim (fun _ _ _ => .tooDeep)
        (fun _ => .same _) fun _ _ _ => .same _
    · exact .same _

lemma cutShort_chain (below : ∀ k < room, Outlasts d e line k) (hroom : room ≤ room')
    (ts : List Token) : CutShort ((mk d line).chain room ts) ((mk e line).chain room' ts) := by
  rw [chain.eq_def, chain.eq_def]
  refine (cutShort_primary (cutShort_expression below hroom) ts).elim (fun _ _ _ => .tooDeep)
    (fun _ => .same _) fun base rest _ => ?_
  dsimp only
  exact (cutShort_links below hroom base rest).elim (fun _ _ _ => .tooDeep) (fun _ => .same _)
    fun _ _ _ => .same _

lemma cutShort_unary (below : ∀ k < room, Outlasts d e line k) (hroom : room ≤ room')
    (ts : List Token) : CutShort ((mk d line).unary room ts) ((mk e line).unary room' ts) := by
  rw [unary.eq_def, unary.eq_def]
  split
  · next m q rest =>
    split
    · exact cutShort_chain below hroom _
    · cases room with
      | zero => exact .tooDeep
      | succ room =>
        obtain ⟨room', rfl⟩ := Nat.exists_eq_add_one_of_ne_zero (Nat.ne_zero_of_lt hroom)
        dsimp only
        exact ((below room (Nat.lt_succ_self _)).unary (Nat.le_of_succ_le_succ hroom) rest).elim
          (fun _ _ _ => .tooDeep) (fun _ => .same _) fun _ _ _ => .same _
  · exact cutShort_chain below hroom _

lemma cutShort_operators (below : ∀ k < room, Outlasts d e line k) (hroom : room ≤ room')
    (least : Nat) (left : Expr) (ts : List Token) :
    CutShort ((mk d line).operators room least left ts)
      ((mk e line).operators room' least left ts) := by
  rw [operators.eq_def, operators.eq_def]
  split
  · next m q rest =>
    split
    · exact .same _
    · next op _ =>
      split
      · exact .same _
      · cases room with
        | zero => exact .tooDeep
        | succ room =>
          obtain ⟨room', rfl⟩ := Nat.exists_eq_add_one_of_ne_zero (Nat.ne_zero_of_lt hroom)
          have hroom := Nat.le_of_succ_le_succ hroom
          have ih := below room (Nat.lt_succ_self _)
          dsimp only
          refine (ih.precedence hroom (op.precedence + 1) rest).elim (fun _ _ _ => .tooDeep)
            (fun _ => .same _) fun right rest' _ => ?_
          dsimp only
          exact (ih.operators hroom least (.binary op left right) rest').elim
            (fun _ _ _ => .tooDeep) (fun _ => .same _) fun _ _ _ => .same _
  · exact .same _

lemma cutShort_precedence (below : ∀ k < room, Outlasts d e line k) (hroom : room ≤ room')
    (least : Nat) (ts : List Token) :
    CutShort ((mk d line).precedence room least ts) ((mk e line).precedence room' least ts) := by
  rw [precedence.eq_def, precedence.eq_def]
  refine (cutShort_unary below hroom ts).elim (fun _ _ _ => .tooDeep) (fun _ => .same _)
    fun left rest _ => ?_
  dsimp only
  exact (cutShort_operators below hroom least left rest).elim (fun _ _ _ => .tooDeep)
    (fun _ => .same _) fun _ _ _ => .same _

/-- So it is on every number of levels. -/
lemma outlasts (d e line room : Nat) : Outlasts d e line room := by
  induction room using Nat.strongRecOn with
  | ind room below =>
    exact {
      precedence := cutShort_precedence below
      operators := cutShort_operators below
      unary := cutShort_unary below
      links := cutShort_links below
      expression := cutShort_expression below
      callArguments := fun hroom => cutShort_callArguments (cutShort_expression below hroom) }

end Expressions

/-! ### Statements without inner statements -/

section Statements

variable {d e line room room' : Nat}

lemma cutShort_variableDeclaration (he : CutsExpressions d e line room room') (ts : List Token) :
    CutShort ((mk d line).variableDeclaration room ts)
      ((mk e line).variableDeclaration room' ts) := by
  rw [variableDeclaration.eq_def, variableDeclaration.eq_def]
  refine parsedCases ((mk d line).name .variableName ts) (fun _ => .same _) fun x rest _ => ?_
  dsimp only
  rcases skipSymbol .assign rest with ⟨_ | _, rest', _⟩
  · exact .same _
  · dsimp only
    exact (he rest').elim (fun _ _ _ => .tooDeep) (fun _ => .same _) fun _ _ _ => .same _

lemma cutShort_expressionStatement (he : CutsExpressions d e line room room') (ts : List Token) :
    CutShort ((mk d line).expressionStatement room ts)
      ((mk e line).expressionStatement room' ts) := by
  rw [expressionStatement.eq_def, expressionStatement.eq_def]
  refine (he ts).elim (fun _ _ _ => .tooDeep) (fun _ => .same _) fun target rest _ => ?_
  dsimp only
  rcases skipSymbol .assign rest with ⟨_ | _, rest', _⟩
  · exact .same _
  · dsimp only
    exact (he rest').elim (fun _ _ _ => .tooDeep) (fun _ => .same _) fun _ _ _ => .same _

lemma cutShort_returnStatement (he : CutsExpressions d e line room room') (ts : List Token) :
    CutShort ((mk d line).returnStatement room ts) ((mk e line).returnStatement room' ts) := by
  rw [returnStatement, returnStatement]
  split
  · exact .same _
  · exact (he ts).elim (fun _ _ _ => .tooDeep) (fun _ => .same _) fun _ _ _ => .same _

lemma cutShort_loopHeader (he : CutsExpressions d e line room room') (ts : List Token) :
    CutShort ((mk d line).loopHeader room ts) ((mk e line).loopHeader room' ts) := by
  rw [loopHeader.eq_def, loopHeader.eq_def]
  rcases skipSymbol .leftParen ts with ⟨bracketed, rest, _⟩
  dsimp only
  rcases skipKeyword .letWord rest with ⟨_, rest₁, _⟩
  dsimp only
  refine parsedCases ((mk d line).name .loopVariableName rest₁) (fun _ => .same _)
    fun x rest₂ _ => ?_
  dsimp only
  refine parsedCases ((mk d line).keyword .inWord .inAfterLoopVariable rest₂) (fun _ => .same _)
    fun _ rest₃ _ => ?_
  dsimp only
  exact (he rest₃).elim (fun _ _ _ => .tooDeep) (fun _ => .same _) fun _ _ _ => .same _

/-! ### Statements -/

/-- On so many levels the functions for statements end as they do on more levels
under another limit, or for want of a level. -/
structure OutlastsStatements (d e line room : Nat) : Prop where
  statement : ∀ {room'}, room ≤ room' → ∀ ts,
    CutShort ((mk d line).statement room ts) ((mk e line).statement room' ts)
  branches : ∀ {room'}, room ≤ room' → ∀ ts,
    CutShort ((mk d line).branches room ts) ((mk e line).branches room' ts)

lemma cutShort_declaration (below : ∀ k < room, OutlastsStatements d e line k)
    (hroom : room ≤ room') (ts : List Token) :
    CutShort ((mk d line).declaration room ts) ((mk e line).declaration room' ts) := by
  rw [declaration.eq_def, declaration.eq_def]
  cases room with
  | zero => exact .tooDeep
  | succ room =>
    obtain ⟨room', rfl⟩ := Nat.exists_eq_add_one_of_ne_zero (Nat.ne_zero_of_lt hroom)
    exact (below room (Nat.lt_succ_self _)).statement (Nat.le_of_succ_le_succ hroom) ts

lemma cutShort_blockBody (below : ∀ k < room, OutlastsStatements d e line k)
    (hroom : room ≤ room') (done : List Stmt) (ts : List Token) :
    CutShort ((mk d line).blockBody room done ts) ((mk e line).blockBody room' done ts) := by
  rw [blockBody.eq_def, blockBody.eq_def]
  cases ts with
  | nil => exact .same _
  | cons t rest =>
    dsimp only
    split
    · exact .same _
    · refine (cutShort_declaration below hroom (t :: rest)).elim (fun _ _ _ => .tooDeep)
        (fun _ => .same _) fun s rest' hl => ?_
      dsimp only
      exact (cutShort_blockBody below hroom (s :: done) rest').elim (fun _ _ _ => .tooDeep)
        (fun _ => .same _) fun _ _ _ => .same _
termination_by ts.length
decreasing_by assumption

lemma cutShort_braced (below : ∀ k < room, OutlastsStatements d e line k) (hroom : room ≤ room')
    (what : Expectation) (ts : List Token) :
    CutShort ((mk d line).braced what room ts) ((mk e line).braced what room' ts) := by
  rw [braced.eq_def, braced.eq_def]
  refine parsedCases ((mk d line).symbol .leftBrace what ts) (fun _ => .same _) fun _ rest _ => ?_
  dsimp only
  exact (cutShort_blockBody below hroom [] rest).elim (fun _ _ _ => .tooDeep) (fun _ => .same _)
    fun _ _ _ => .same _

lemma cutShort_branches (below : ∀ k < room, OutlastsStatements d e line k)
    (hroom : room ≤ room') (ts : List Token) :
    CutShort ((mk d line).branches room ts) ((mk e line).branches room' ts) := by
  rw [branches.eq_def, branches.eq_def]
  refine ((outlasts d e line room).expression hroom ts).elim (fun _ _ _ => .tooDeep)
    (fun _ => .same _) fun c rest _ => ?_
  dsimp only
  refine (cutShort_braced below hroom .braceAfterIf rest).elim (fun _ _ _ => .tooDeep)
    (fun _ => .same _) fun body rest₁ _ => ?_
  dsimp only
  rcases skipKeyword .elseWord rest₁ with ⟨_ | _, rest₂, _⟩
  · exact .same _
  dsimp only
  rcases skipKeyword .ifWord rest₂ with ⟨_ | _, rest₃, _⟩
  · dsimp only
    exact (cutShort_braced below hroom .braceAfterElse rest₃).elim (fun _ _ _ => .tooDeep)
      (fun _ => .same _) fun _ _ _ => .same _
  · cases room with
    | zero => exact .tooDeep
    | succ room =>
      obtain ⟨room', rfl⟩ := Nat.exists_eq_add_one_of_ne_zero (Nat.ne_zero_of_lt hroom)
      dsimp only
      exact ((below room (Nat.lt_succ_self _)).branches (Nat.le_of_succ_le_succ hroom) rest₃).elim
        (fun _ _ _ => .tooDeep) (fun _ => .same _) fun _ _ _ => .same _

lemma cutShort_statement (below : ∀ k < room, OutlastsStatements d e line k)
    (hroom : room ≤ room') (ts : List Token) :
    CutShort ((mk d line).statement room ts) ((mk e line).statement room' ts) := by
  have he : CutsExpressions d e line room room' := (outlasts d e line room).expression hroom
  rw [statement.eq_def, statement.eq_def]
  split
  · next rest => exact (cutShort_variableDeclaration he rest).map _
  · next rest =>
    refine (cutShort_functionHeader d e line rest).elim (fun _ _ _ => .tooDeep)
      (fun _ => .same _) fun header rest' _ => ?_
    dsimp only
    exact (cutShort_blockBody below hroom [] rest').elim (fun _ _ _ => .tooDeep)
      (fun _ => .same _) fun _ _ _ => .same _
  · next rest =>
    exact (cutShort_branches below hroom rest).elim (fun _ _ _ => .tooDeep) (fun _ => .same _)
      fun _ _ _ => .same _
  · next rest =>
    refine (he rest).elim (fun _ _ _ => .tooDeep) (fun _ => .same _) fun c rest' _ => ?_
    dsimp only
    exact (cutShort_braced below hroom .braceAfterWhile rest').elim (fun _ _ _ => .tooDeep)
      (fun _ => .same _) fun _ _ _ => .same _
  · next rest =>
    refine (cutShort_loopHeader he rest).elim (fun _ _ _ => .tooDeep) (fun _ => .same _)
      fun header rest' _ => ?_
    dsimp only
    exact (cutShort_braced below hroom .braceAfterLoopHeader rest').elim (fun _ _ _ => .tooDeep)
      (fun _ => .same _) fun _ _ _ => .same _
  · next rest => exact (cutShort_returnStatement he rest).map _
  · exact .same _
  · exact .same _
  · next q rest =>
    split
    · exact cutShort_expressionStatement he _
    · exact (cutShort_blockBody below hroom [] rest).elim (fun _ _ _ => .tooDeep)
        (fun _ => .same _) fun _ _ _ => .same _
  · exact cutShort_expressionStatement he ts

/-- So it is on every number of levels. -/
lemma outlastsStatements (d e line room : Nat) : OutlastsStatements d e line room := by
  induction room using Nat.strongRecOn with
  | ind room below => exact ⟨cutShort_statement below, cutShort_branches below⟩

lemma cutShort_declarations (hlimit : d ≤ e) (done : List Stmt) (ts : List Token) :
    CutShort ((mk d line).declarations done ts) ((mk e line).declarations done ts) := by
  rw [declarations.eq_def, declarations.eq_def]
  cases ts with
  | nil => exact .same _
  | cons t rest =>
    dsimp only
    refine (cutShort_declaration (fun k _ => outlastsStatements d e line k) hlimit
      (t :: rest)).elim (fun _ _ _ => .tooDeep) (fun _ => .same _) fun s rest' hl => ?_
    exact cutShort_declarations hlimit (s :: done) rest'
termination_by ts.length
decreasing_by assumption

end Statements

/-- The line of the end of the tokens does not hang on the limit. -/
lemma exists_endLine (tokens : List Token) :
    ∃ line, ∀ limit, ofTokens limit tokens = mk limit line := by
  cases hfind : tokens.find? endsText with
  | some t => exact ⟨t.position.line, fun limit => by rw [ofTokens, hfind]⟩
  | none =>
    cases hlast : tokens.getLast? with
    | some t => exact ⟨t.position.line, fun limit => by rw [ofTokens, hfind, hlast]⟩
    | none => exact ⟨1, fun limit => by rw [ofTokens, hfind, hlast]⟩

lemma CutShort.eq {α : Type} {r r' : Except ParseError α} (h : CutShort r r')
    (hroom : ∀ n line, r ≠ .error (.tooDeep n line)) : r' = r := by
  cases h with
  | same => rfl
  | tooDeep => exact absurd rfl (hroom _ _)

end Grammar

open Grammar

variable {small large : Nat}

lemma Code.cutShort_parse (h : small ≤ large) (tokens : List Token) :
    CutShort (Code.parse small tokens) (Code.parse large tokens) := by
  obtain ⟨line, hline⟩ := exists_endLine tokens
  rw [Code.parse, Code.parse, hline, hline]
  exact cutShort_declarations h [] (body tokens)

lemma Expr.cutShort_parse (h : small ≤ large) (tokens : List Token) :
    CutShort (Expr.parse small tokens) (Expr.parse large tokens) := by
  obtain ⟨line, hline⟩ := exists_endLine tokens
  rw [Expr.parse, Expr.parse, hline, hline]
  refine ((outlasts small large line small).expression h (body tokens)).elim
    (fun _ _ _ => .tooDeep) (fun _ => .same _) fun e rest _ => ?_
  cases rest with
  | nil => exact .same _
  | cons t rest => exact .same _

/-- A larger limit makes a difference only to token lists that are refused for
their nesting: from all others comes the same tree, or the same refusal. -/
theorem parse_eq_of_larger_limit (h : small ≤ large) (tokens : List Token) :
    ((∀ n line, Code.parse small tokens ≠ .error (.tooDeep n line)) →
      Code.parse large tokens = Code.parse small tokens)
    ∧ ((∀ n line, Expr.parse small tokens ≠ .error (.tooDeep n line)) →
      Expr.parse large tokens = Expr.parse small tokens) :=
  ⟨(Code.cutShort_parse h tokens).eq, (Expr.cutShort_parse h tokens).eq⟩

/-- The tokens of `[a`. -/
def unclosedTokens : List Token :=
  [⟨.symbol .leftBracket, 1, 1⟩, ⟨.name "a", 1, 2⟩, ⟨.endOfText, 2, 1⟩]

/-- Why they are refused. -/
def unclosedError : ParseError := .expected .bracketAfterItems .endOfText 2

theorem parse_unclosedTokens : 3 ≤ 128
    ∧ (∀ n line, Code.parse 3 unclosedTokens ≠ .error (.tooDeep n line))
    ∧ (∀ n line, Expr.parse 3 unclosedTokens ≠ .error (.tooDeep n line))
    ∧ Code.parse 128 unclosedTokens = .error unclosedError
    ∧ Expr.parse 128 unclosedTokens = .error unclosedError := by
  have hlimit : 3 ≤ 128 := by decide
  have hcode : Code.parse 3 unclosedTokens = .error unclosedError := by cbv
  have hexpr : Expr.parse 3 unclosedTokens = .error unclosedError := by cbv
  have hcodeRoom : ∀ n line, Code.parse 3 unclosedTokens ≠ .error (.tooDeep n line) := by
    simp [hcode, unclosedError]
  have hexprRoom : ∀ n line, Expr.parse 3 unclosedTokens ≠ .error (.tooDeep n line) := by
    simp [hexpr, unclosedError]
  obtain ⟨hlargeCode, hlargeExpr⟩ := parse_eq_of_larger_limit hlimit unclosedTokens
  exact ⟨hlimit, hcodeRoom, hexprRoom, (hlargeCode hcodeRoom).trans hcode,
    (hlargeExpr hexprRoom).trans hexpr⟩

end MockupStudio.Script
