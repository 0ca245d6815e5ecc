/-
How high a tree the nesting limit lets through.

A link of a chain takes a level, but the levels of the operand that the chain
starts with are given back first, so the node of the link stands above a
subtree that its level was not added to. On each level a chain of members and
one of operators can be put around what the next level yields, and heights
grow with the square of the limit.

* `Phrase.Within`: how high what a rule reads can be on so many levels;
  `within_of_reads` proves it by induction on the reading;
* `Expr.height_le_of_parse`, `Code.height_le_of_parse`: the heights of parsed
  trees;
* `tallTree`, `tallTokens`: a tree of the greatest height for each limit and
  tokens it is parsed from;
* `parse_height_le_limit_iff`: no tree is higher than the limit just when the
  limit is so small that there is no room for such a chain.
-/
import MockupStudio.Proofs.Script.Height
import MockupStudio.Proofs.Script.Reading
import Mathlib.Data.List.TakeWhile
import Mathlib.Tactic.Ring

namespace MockupStudio.Script

namespace Grammar

/-! ### No tree is higher -/

/-- How high what a rule reads can be on so many levels. -/
def Phrase.Within (room : Nat) : Phrase → Prop
  | .expression e => e.height ≤ room * room
  | .precedence _ e => e.height ≤ (room + 1) * (room + 1)
  | .operators _ left e => e.height ≤ max left.height (room * room) + room
  | .unary e | .chain e => e.height ≤ room * room + room + 1
  | .links base e => e.height ≤ max base.height (room * room) + room
  | .callArguments es | .arguments es | .items es => Expr.tallest es ≤ room * room
  | .members ms => Expr.tallestMember ms ≤ room * room
  | .primary e => e.height ≤ room * room + 1
  | .declaration s => s.height ≤ (room - 1) * (room - 1) + 1 ∧ 0 < room
  | .statement s => s.height ≤ room * room + 1
  | .branches c code o => max c.height (max (Code.height code) o.height) ≤ room * room
  | .block code => Code.height code ≤ room * room

/-- A step from one level to the next makes room for two chains and a
bracket. -/
lemma square_succ (n : Nat) : (n + 1) * (n + 1) = n * n + n + n + 1 := by ring

lemma within_of_reads {room : Nat} {phrase : Phrase} {ts rest : List Token}
    (h : Reads room phrase ts rest) : phrase.Within room := by
  induction h with
  | precedence _ _ ihleft ihmore =>
    simp only [Phrase.Within, square_succ] at *
    omega
  | operator _ _ _ _ ihright ihmore =>
    -- the right operand is within the square of the levels left for it
    simp only [Phrase.Within, Expr.height, square_succ] at *
    omega
  | chain _ _ ihbase ihmore =>
    simp only [Phrase.Within] at *
    omega
  | call _ _ ihargs ihmore =>
    simp only [Phrase.Within, Expr.height, square_succ] at *
    omega
  | next hs _ ihs ihmore =>
    simp only [Phrase.Within, Code.height] at *
    obtain ⟨ihs, hroom⟩ := ihs
    obtain ⟨k, rfl⟩ := Nat.exists_eq_succ_of_ne_zero hroom.ne'
    simp only [Nat.succ_eq_add_one, Nat.add_sub_cancel, square_succ] at *
    omega
  | _ =>
    -- no other rule puts a node above more than what its levels allow
    simp only [Phrase.Within, Expr.height, Expr.tallest, Expr.tallestMember, Stmt.height,
      Otherwise.height, Code.height, Option.elim, square_succ, Nat.add_sub_cancel] at *
    try omega

lemma height_le_of_readsAll {limit : Nat} {code : Code} {ts : List Token}
    (h : ReadsAll limit code ts) : code.height ≤ (limit - 1) ^ 2 + 1 := by
  induction h with
  | nil => simp [Code.height]
  | cons hs _ ih =>
    have hs := (within_of_reads hs).1
    rw [Code.height, Nat.pow_two] at *
    exact max_le hs ih

/-- Without a level there is no statement. -/
lemma height_of_readsAll_zero {code : Code} {ts : List Token} (h : ReadsAll 0 code ts) :
    code.height = 0 := by
  cases h with
  | nil => rfl
  | cons hs _ => exact absurd (within_of_reads hs).2 (lt_irrefl 0)

end Grammar

open Grammar

/-- A parsed expression is no higher than the square of the limit. -/
theorem Expr.height_le_of_parse {limit : Nat} {tokens : List Token} {e : Expr}
    (h : Expr.parse limit tokens = .ok e) : e.height ≤ limit ^ 2 := by
  have := within_of_reads (Expr.reads_of_parse h)
  rwa [Nat.pow_two]

/-- A parsed script is no higher than a statement around an expression of one
level less. -/
theorem Code.height_le_of_parse {limit : Nat} {tokens : List Token} {code : Code}
    (h : Code.parse limit tokens = .ok code) : code.height ≤ (limit - 1) ^ 2 + 1 :=
  height_le_of_readsAll (Code.reads_of_parse h)

/-! ### Some trees are as high -/

/-- An expression with so many members after it. -/
def Expr.dotted : Nat → Expr → Expr
  | 0, e => e
  | n + 1, e => dotted n (.member e "x")

/-- An expression with so many additions after it. -/
def Expr.summed : Nat → Expr → Expr
  | 0, e => e
  | n + 1, e => summed n (.binary .add e (.name "x"))

/-- On each level an array with a chain of members around it and a chain of
operators around that. -/
def tallTree : Nat → Expr
  | 0 => .name "x"
  | n + 1 => .summed (n + 1) (.dotted (n + 1) (.array [tallTree n]))

/-- A token on the first line. -/
def Token.ofKind (kind : Token.Kind) : Token := ⟨kind, 1, 1⟩

/-- So many members. -/
def dotTokens : Nat → List Token
  | 0 => []
  | n + 1 => .ofKind (.symbol .dot) :: .ofKind (.name "x") :: dotTokens n

/-- So many additions. -/
def sumTokens : Nat → List Token
  | 0 => []
  | n + 1 => .ofKind (.symbol .plus) :: .ofKind (.name "x") :: sumTokens n

/-- Tokens of a tall tree. -/
def tallTokens : Nat → List Token
  | 0 => [.ofKind (.name "x")]
  | n + 1 =>
    .ofKind (.symbol .leftBracket) :: (tallTokens n ++ .ofKind (.symbol .rightBracket)
      :: (dotTokens (n + 1) ++ sumTokens (n + 1)))

lemma Expr.height_dotted (n : Nat) (e : Expr) : (e.dotted n).height = e.height + n := by
  induction n generalizing e with
  | zero => rfl
  | succ n ih =>
    rw [Expr.dotted, ih, Expr.height]
    omega

lemma Expr.height_summed (n : Nat) {e : Expr} (h : 0 < e.height) :
    (e.summed n).height = e.height + n := by
  induction n generalizing e with
  | zero => rfl
  | succ n ih =>
    have hnode : (Expr.binary .add e (.name "x")).height = e.height + 1 := by
      simp only [Expr.height]
      omega
    rw [Expr.summed, ih (by omega), hnode]
    omega

/-- The height of the tall tree for so many levels. -/
lemma height_tallTree (n : Nat) : (tallTree n).height = (n + 1) ^ 2 := by
  induction n with
  | zero => rfl
  | succ n ih =>
    have harray : (Expr.array [tallTree n]).height = (n + 1) ^ 2 + 1 := by
      simp only [Expr.height, Expr.tallest, ih]
      omega
    rw [tallTree, Expr.height_summed, Expr.height_dotted, harray]
    · ring
    · rw [Expr.height_dotted, harray]
      omega

namespace Grammar

/-- A part of the parser succeeds, with a result and the tokens left. -/
def Yields {α : Type} {n : Nat} (r : Except ParseError (Parsed α n)) (a : α)
    (rest : List Token) : Prop :=
  ∃ hl, r = .ok ⟨a, rest, hl⟩

/-- No chain goes on: the tokens are over, or an array is. -/
inductive Closed : List Token → Prop where
  | atEnd : Closed []
  | bracket : Closed (.ofKind (.symbol .rightBracket) :: rest)

variable {g : Grammar} {room least : Nat} {ts mid rest : List Token} {base left e : Expr}

lemma chain_yields (hbase : Yields (g.primary room ts) base mid)
    (hlinks : Yields (g.links room base mid) e rest) : Yields (g.chain room ts) e rest := by
  obtain ⟨_, hbase⟩ := hbase
  obtain ⟨_, hlinks⟩ := hlinks
  refine ⟨by omega, ?_⟩
  rw [chain.eq_def]
  simp only [hbase, hlinks]

lemma precedence_yields (hleft : Yields (g.unary room ts) left mid)
    (hmore : Yields (g.operators room least left mid) e rest) :
    Yields (g.precedence room least ts) e rest := by
  obtain ⟨_, hleft⟩ := hleft
  obtain ⟨_, hmore⟩ := hmore
  refine ⟨by omega, ?_⟩
  rw [precedence.eq_def]
  simp only [hleft, hmore]

lemma operators_closed (h : Closed rest) (left : Expr) :
    Yields (g.operators room least left rest) left rest := by
  refine ⟨Nat.lt_succ_self _, ?_⟩
  rw [operators.eq_def]
  cases h <;> rfl

lemma links_closed (h : Closed rest) (base : Expr) :
    Yields (g.links room base rest) base rest := by
  refine ⟨Nat.lt_succ_self _, ?_⟩
  rw [links.eq_def]
  cases h <;> rfl

/-- Additions are no links of a chain of members. -/
lemma links_sumTokens (h : Closed rest) (n : Nat) (base : Expr) :
    Yields (g.links room base (sumTokens n ++ rest)) base (sumTokens n ++ rest) := by
  cases n with
  | zero => exact links_closed h base
  | succ n =>
    refine ⟨Nat.lt_succ_self _, ?_⟩
    rw [links.eq_def]
    rfl

/-- Each member takes a level. -/
lemma links_dotTokens (h : Closed rest) (n k : Nat) (base : Expr) :
    Yields (g.links n base (dotTokens n ++ (sumTokens k ++ rest))) (base.dotted n)
      (sumTokens k ++ rest) := by
  induction n generalizing base with
  | zero => exact links_sumTokens h k base
  | succ n ih =>
    obtain ⟨_, hmore⟩ := ih (.member base "x")
    refine ⟨by simp [dotTokens]; omega, ?_⟩
    rw [links.eq_def]
    simp only [dotTokens, Token.ofKind, List.cons_append, name, hmore]
    rfl

lemma unary_name (h : Closed rest) (k : Nat) :
    Yields (g.unary room (.ofKind (.name "x") :: (sumTokens k ++ rest))) (.name "x")
      (sumTokens k ++ rest) := by
  have hname : Yields (g.primary room (.ofKind (.name "x") :: (sumTokens k ++ rest)))
      (.name "x") (sumTokens k ++ rest) := ⟨Nat.lt_succ_self _, by rw [primary.eq_def]; rfl⟩
  obtain ⟨hl, hchain⟩ := chain_yields hname (links_sumTokens h k _)
  exact ⟨hl, by rw [unary.eq_def]; exact hchain⟩

/-- An addition binds less tightly than what may stand to the right of one. -/
lemma operators_stop (h : Closed rest) (n : Nat) (left : Expr) :
    Yields (g.operators room (BinaryOp.precedence .add + 1) left (sumTokens n ++ rest)) left
      (sumTokens n ++ rest) := by
  cases n with
  | zero => exact operators_closed h left
  | succ n =>
    refine ⟨Nat.lt_succ_self _, ?_⟩
    rw [operators.eq_def]
    rfl

/-- Each addition takes a level. -/
lemma operators_sumTokens (h : Closed rest) (n : Nat) (left : Expr) :
    Yields (g.operators n 1 left (sumTokens n ++ rest)) (left.summed n) rest := by
  induction n generalizing left with
  | zero => exact operators_closed h left
  | succ n ih =>
    obtain ⟨_, hmore⟩ := ih (.binary .add left (.name "x"))
    have hname : Yields (g.unary n _) _ _ := unary_name h n
    obtain ⟨_, hright⟩ := precedence_yields hname (operators_stop h n _)
    refine ⟨by simp [sumTokens]; omega, ?_⟩
    rw [operators.eq_def]
    simp only [sumTokens, List.cons_append, Token.ofKind, BinaryOp.ofSymbol?] at hright ⊢
    simp only [hright, hmore]
    rfl

lemma startsWith_tallTokens (n : Nat) (rest : List Token) :
    startsWith .rightBracket (tallTokens n ++ rest) = false := by
  cases n <;> rfl

/-- An array of one item that is read on the level below. -/
lemma primary_array (hopen : startsWith .rightBracket ts = false)
    (hitem : Yields (g.precedence room 1 ts) e (.ofKind (.symbol .rightBracket) :: rest)) :
    Yields (g.primary (room + 1) (.ofKind (.symbol .leftBracket) :: ts)) (.array [e]) rest := by
  obtain ⟨hl, hitem⟩ := hitem
  have hexpression : g.expression (room + 1) ts
      = .ok ⟨e, .ofKind (.symbol .rightBracket) :: rest, hl⟩ := by
    rw [expression.eq_def]
    exact hitem
  have hitems : g.items (room + 1) [] ts = .ok ⟨[e], rest, by simp at hl; omega⟩ := by
    rw [items.eq_def]
    simp only [hopen, hexpression]
    rfl
  refine ⟨by simp at hl ⊢; omega, ?_⟩
  rw [primary.eq_def]
  simp only [Token.ofKind, hitems]

/-- The tall tree for so many levels is parsed on them. -/
lemma precedence_tallTokens (h : Closed rest) (n : Nat) :
    Yields (g.precedence n 1 (tallTokens n ++ rest)) (tallTree n) rest := by
  induction n generalizing rest with
  | zero => exact precedence_yields (unary_name h 0) (operators_closed h _)
  | succ n ih =>
    have harray := primary_array (g := g) (startsWith_tallTokens n _)
      (@ih (_ :: (dotTokens (n + 1) ++ (sumTokens (n + 1) ++ rest))) .bracket)
    obtain ⟨hl, hchain⟩ := chain_yields harray (links_dotTokens h (n + 1) (n + 1) _)
    have hunary : Yields (g.unary (n + 1) (tallTokens (n + 1) ++ rest))
        (.dotted (n + 1) (.array [tallTree n])) (sumTokens (n + 1) ++ rest) := by
      have heq : tallTokens (n + 1) ++ rest = .ofKind (.symbol .leftBracket)
          :: (tallTokens n ++ .ofKind (.symbol .rightBracket)
            :: (dotTokens (n + 1) ++ (sumTokens (n + 1) ++ rest))) := by
        simp [tallTokens]
      rw [heq]
      exact ⟨hl, by rw [unary.eq_def]; exact hchain⟩
    exact precedence_yields hunary (operators_sumTokens h (n + 1) _)

end Grammar

open Grammar

lemma endsText_tallTokens (n : Nat) : ∀ t ∈ tallTokens n, endsText t = false := by
  have hdots : ∀ k, ∀ t ∈ dotTokens k, endsText t = false := by
    intro k
    induction k with
    | zero => simp [dotTokens]
    | succ k ih => simpa [dotTokens, Token.ofKind, endsText] using ih
  have hsums : ∀ k, ∀ t ∈ sumTokens k, endsText t = false := by
    intro k
    induction k with
    | zero => simp [sumTokens]
    | succ k ih => simpa [sumTokens, Token.ofKind, endsText] using ih
  induction n with
  | zero => simp [tallTokens, Token.ofKind, endsText]
  | succ n ih =>
    intro t ht
    simp only [tallTokens, List.mem_cons, List.mem_append] at ht
    rcases ht with rfl | ht | rfl | ht | ht
    · rfl
    · exact ih t ht
    · rfl
    · exact hdots _ t ht
    · exact hsums _ t ht

/-- All tokens of a tall tree are read. -/
lemma body_tallTokens (n : Nat) : body (tallTokens n) = tallTokens n := by
  rw [body, List.takeWhile_eq_self_iff]
  intro t ht
  simp [endsText_tallTokens n t ht]

/-- On one more level than its chains take, the tall tree is an expression. -/
lemma expression_tallTokens (g : Grammar) (n : Nat) :
    Yields (g.expression (n + 1) (tallTokens n)) (tallTree n) [] := by
  have h := precedence_tallTokens (g := g) .atEnd n
  rw [List.append_nil] at h
  obtain ⟨hl, h⟩ := h
  exact ⟨hl, by rw [expression.eq_def]; exact h⟩

/-- The tall tree is parsed within the limit. -/
lemma Expr.parse_tallTokens (n : Nat) :
    Expr.parse (n + 1) (tallTokens n) = .ok (tallTree n) := by
  have h := expression_tallTokens (ofTokens (n + 1) (tallTokens n)) n
  rw [← body_tallTokens n] at h
  obtain ⟨hl, h⟩ : Yields ((ofTokens (n + 1) (tallTokens n)).expression (n + 1)
    (body (tallTokens n))) (tallTree n) [] := by rwa [body_tallTokens n] at h ⊢
  simp only [Expr.parse, h]

/-- No keyword and no brace begins the tokens of a tall tree. -/
lemma statement_tallTokens (g : Grammar) (room n : Nat) :
    g.statement room (tallTokens n) = g.expressionStatement room (tallTokens n) := by
  cases n <;> (rw [statement.eq_def]; rfl)

lemma declaration_tallTokens (g : Grammar) (n : Nat) :
    Yields (g.declaration (n + 2) (tallTokens n)) (.expr (tallTree n)) [] := by
  obtain ⟨hl, h⟩ := expression_tallTokens g n
  refine ⟨hl, ?_⟩
  rw [declaration.eq_def]
  change g.statement (n + 1) (tallTokens n) = _
  rw [statement_tallTokens, expressionStatement.eq_def]
  simp only [h]
  rfl

/-- The tall tree as a statement is parsed within the limit. -/
lemma Code.parse_tallTokens (n : Nat) :
    Code.parse (n + 2) (tallTokens n) = .ok [.expr (tallTree n)] := by
  have hlimit : (ofTokens (n + 2) (tallTokens n)).limit = n + 2 := ofTokens_limit _ _
  have h := declaration_tallTokens (ofTokens (n + 2) (tallTokens n)) n
  obtain ⟨t, rest, hts⟩ : ∃ t rest, tallTokens n = t :: rest := by
    cases n <;> exact ⟨_, _, rfl⟩
  rw [Code.parse, body_tallTokens]
  rw [hts] at h hlimit ⊢
  obtain ⟨hl, h⟩ := h
  rw [declarations.eq_def]
  simp only [hlimit, h]
  rw [declarations.eq_def]
  rfl

/-- Heights are bounded by the square of the limit, and by the limit itself
just when there is no level to put a chain around a bracket. -/
theorem parse_height_le_limit_iff (limit : Nat) :
    (∀ tokens e, Expr.parse limit tokens = .ok e → e.height ≤ limit ^ 2)
      ∧ (∀ tokens code, Code.parse limit tokens = .ok code →
        Code.height code ≤ (limit - 1) ^ 2 + 1)
      ∧ ((∀ tokens e, Expr.parse limit tokens = .ok e → e.height ≤ limit) ↔ limit ≤ 1)
      ∧ ((∀ tokens code, Code.parse limit tokens = .ok code → Code.height code ≤ limit)
        ↔ limit ≤ 2) := by
  refine ⟨fun _ _ => Expr.height_le_of_parse, fun _ _ => Code.height_le_of_parse, ⟨?_, ?_⟩,
    ⟨?_, ?_⟩⟩
  · -- a tall tree is too high from the second level on
    intro h
    by_contra hlimit
    obtain ⟨n, rfl⟩ := Nat.exists_eq_add_of_lt (not_le.mp hlimit)
    rw [show 1 + n + 1 = n + 1 + 1 by omega] at h
    have htall := h _ _ (Expr.parse_tallTokens (n + 1))
    have : (n + 1 + 1) ^ 2 = (n + 1 + 1) + (n + 1 + 1) + n * (n + 2) := by ring
    rw [height_tallTree] at htall
    omega
  · intro hlimit tokens e he
    have hle := Expr.height_le_of_parse he
    obtain rfl | rfl : limit = 0 ∨ limit = 1 := by omega
    · exact hle
    · exact hle
  · intro h
    by_contra hlimit
    obtain ⟨n, rfl⟩ := Nat.exists_eq_add_of_lt (not_le.mp hlimit)
    rw [show 2 + n + 1 = n + 1 + 2 by omega] at h
    have htall := h _ _ (Code.parse_tallTokens (n + 1))
    have hheight : Code.height [.expr (tallTree (n + 1))] = (n + 1 + 1) ^ 2 + 1 := by
      simp only [Code.height, Stmt.height, height_tallTree]
      omega
    have : (n + 1 + 1) ^ 2 = (n + 1 + 1) + (n + 1 + 1) + n * (n + 2) := by ring
    rw [hheight] at htall
    omega
  · intro hlimit tokens code hcode
    have hle := Code.height_le_of_parse hcode
    obtain rfl | rfl | rfl : limit = 0 ∨ limit = 1 ∨ limit = 2 := by omega
    · exact (height_of_readsAll_zero (Code.reads_of_parse hcode)).le
    · exact hle
    · exact hle

/-- Two levels are enough for `[a] + x`, a tree of three. -/
theorem parse_operator_around_array :
    ¬ ∀ limit tokens e, Expr.parse limit tokens = .ok e → e.height ≤ limit := by
  intro h
  have hle := h 2 [.ofKind (.symbol .leftBracket), .ofKind (.name "a"),
    .ofKind (.symbol .rightBracket), .ofKind (.symbol .plus), .ofKind (.name "x")]
    (.binary .add (.array [.name "a"]) (.name "x")) (by cbv)
  exact absurd hle (by decide)

end MockupStudio.Script
