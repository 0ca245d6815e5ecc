/-
Reading back a text that tokens were written into.

* `Gap`: blanks and comments in any order;
* `Renders`: tokens one after the other, each written in one of its ways, with a
  blank and a gap between neighbours;
* `tokensFrom_spelled`: one token behind a gap is read;
* `tokensFrom_trails`: so are all that follow;
* `tokenize_rendered`: a text gives the tokens that were written into it;
* `Renders.unique`: no other tokens can be written as that text.
-/
import MockupStudio.Proofs.Script.Spelling

namespace MockupStudio.Script

/-! ### Gaps -/

/-- Blanks, line comments with their line ends, and block comments. -/
inductive Gap : List Char → Prop where
  | nil : Gap []
  | blank (hblank : Text.isBlank c) (h : Gap cs) : Gap (c :: cs)
  | lineComment (hbody : '\n' ∉ body) (h : Gap cs) : Gap ('/' :: '/' :: (body ++ '\n' :: cs))
  | blockComment (hbody : ¬ ['*', '/'] <:+: body) (h : Gap cs) :
    Gap ('/' :: '*' :: (body ++ '*' :: '/' :: cs))

lemma skipGap_blank {c : Char} (h : Text.isBlank c) (cs : List Char) (p : Position) :
    skipGap .between (c :: cs) p = skipGap .between cs (p.advance c) := by
  have hslash : c ≠ '/' := ne_of_isBlank h rfl
  rw [skipGap.eq_def]
  simp [h, hslash]

lemma skipGap_lineComment {body : List Char} (h : '\n' ∉ body) (rest : List Char)
    (p : Position) :
    skipGap .lineComment (body ++ '\n' :: rest) p
      = skipGap .between rest (p.after (body ++ ['\n'])) := by
  induction body generalizing p with
  | nil =>
    rw [List.nil_append, skipGap.eq_def]
    simp [Position.after]
  | cons c body ih =>
    rw [List.mem_cons, not_or] at h
    have hstep := ih h.2 (p.advance c)
    rw [List.cons_append, skipGap.eq_def]
    simpa [Ne.symm h.1] using hstep

lemma skipGap_blockComment {body : List Char} (h : ¬ ['*', '/'] <:+: body) (start : Position)
    (rest : List Char) (p : Position) :
    skipGap (.blockComment start) (body ++ '*' :: '/' :: rest) p
      = skipGap .between rest (p.after (body ++ ['*', '/'])) := by
  induction body generalizing p with
  | nil =>
    rw [List.nil_append, skipGap.eq_def]
    rfl
  | cons c body ih =>
    have hstep := ih (fun hinfix => h (List.infix_cons hinfix)) (p.advance c)
    -- the comment would end here if the body had a star before a slash
    have hopen : ∀ tail, c = '*' → body ++ '*' :: '/' :: rest ≠ '/' :: tail := by
      rintro tail rfl htail
      cases body with
      | nil => simp at htail
      | cons d body =>
        obtain ⟨rfl, -⟩ := List.cons.inj htail
        exact h (List.prefix_append ['*', '/'] body).isInfix
    rw [List.cons_append, List.cons_append, Position.after_cons, ← hstep, skipGap.eq_def]
    split <;> simp_all

/-- A gap is skipped, and nothing after it. -/
lemma skipGap_gap {gap : List Char} (h : Gap gap) (rest : List Char) (p : Position) :
    skipGap .between (gap ++ rest) p = skipGap .between rest (p.after gap) := by
  induction h generalizing p with
  | nil => rfl
  | @blank c cs hblank _ ih =>
    rw [List.cons_append, skipGap_blank hblank, ih, Position.after_cons]
  | @lineComment body cs hbody _ ih =>
    have hskip := skipGap_lineComment hbody (cs ++ rest) ((p.advance '/').advance '/')
    rw [ih, ← Position.after_append] at hskip
    rw [skipGap.eq_def]
    simpa using hskip
  | @blockComment body cs hbody _ ih =>
    have hskip := skipGap_blockComment hbody p (cs ++ rest) ((p.advance '/').advance '*')
    rw [ih, ← Position.after_append] at hskip
    rw [skipGap.eq_def]
    simpa using hskip

/-! ### Texts with tokens -/

/-- The text after a token: further tokens, a blank and a gap before each. -/
inductive Trails : List Token.Kind → List Char → Prop where
  | nil : Trails [] []
  | cons (hblank : Text.isBlank c) (hgap : Gap gap) (hkind : Spells kind cs)
      (h : Trails kinds rest) : Trails (kind :: kinds) (c :: (gap ++ (cs ++ rest)))

/-- Tokens written one after the other, with a blank and a gap between
neighbours. -/
inductive Renders : List Token.Kind → List Char → Prop where
  | nil : Renders [] []
  | cons (hkind : Spells kind cs) (h : Trails kinds rest) :
    Renders (kind :: kinds) (cs ++ rest)

lemma Trails.blankAhead {kinds : List Token.Kind} {rest : List Char} (h : Trails kinds rest) :
    BlankAhead rest := by
  cases h with
  | nil => simp [BlankAhead]
  | cons hblank => simpa [BlankAhead] using hblank

lemma exists_trails {kinds : List Token.Kind} (h : ∀ kind ∈ kinds, kind.IsWritable) :
    ∃ rest, Trails kinds rest := by
  induction kinds with
  | nil => exact ⟨[], .nil⟩
  | cons kind kinds ih =>
    obtain ⟨hkind, hkinds⟩ := List.forall_mem_cons.mp h
    obtain ⟨cs, hcs⟩ := isWritable_iff.mp hkind
    obtain ⟨rest, hrest⟩ := ih hkinds
    exact ⟨_, .cons (c := ' ') rfl .nil hcs hrest⟩

/-- Tokens that can be written at all can be written one after the other. -/
lemma exists_renders {kinds : List Token.Kind} (h : ∀ kind ∈ kinds, kind.IsWritable) :
    ∃ cs, Renders kinds cs := by
  cases kinds with
  | nil => exact ⟨[], .nil⟩
  | cons kind kinds =>
    obtain ⟨hkind, hkinds⟩ := List.forall_mem_cons.mp h
    obtain ⟨cs, hcs⟩ := isWritable_iff.mp hkind
    obtain ⟨rest, hrest⟩ := exists_trails hkinds
    exact ⟨_, .cons hcs hrest⟩

/-! ### Reading them -/

section Reading

variable {done : List Token} {cursor next : Cursor} {p : Position}

lemma tokensFrom_end (h : skipGap .between cursor.rest cursor.position = .ok ⟨[], p⟩) :
    tokensFrom done cursor = .ok (done.reverse ++ [⟨.endOfText, p⟩]) := by
  rw [tokensFrom.eq_def]
  split <;> simp_all

lemma tokensFrom_token {c : Char} {cs : List Char} {kind : Token.Kind}
    (hskip : skipGap .between cursor.rest cursor.position = .ok ⟨c :: cs, p⟩)
    (hread : readToken c cs p = .ok (kind, next)) :
    tokensFrom done cursor = tokensFrom (⟨kind, p⟩ :: done) next := by
  rw [tokensFrom.eq_def]
  split <;> simp_all
  split <;> simp_all

/-- One token behind a gap is read, and nothing after it. -/
lemma tokensFrom_spelled {gap cs rest : List Char} {kind : Token.Kind} (hgap : Gap gap)
    (hkind : Spells kind cs) (hrest : BlankAhead rest) (done : List Token) (p : Position) :
    ∃ q r, tokensFrom done ⟨gap ++ (cs ++ rest), p⟩
      = tokensFrom (⟨kind, q⟩ :: done) ⟨rest, r⟩ := by
  have hskip := skipGap_gap hgap (cs ++ rest) p
  obtain ⟨c, tail, r, hcs, hstay, hread⟩ := hkind.readsAs rest hrest (p.after gap)
  rw [hcs] at hskip ⊢
  exact ⟨p.after gap, r, tokensFrom_token (hskip.trans hstay) hread⟩

lemma tokensFrom_trails {kinds : List Token.Kind} {cs : List Char} (h : Trails kinds cs)
    (done : List Token) (p : Position) :
    ∃ tokens, tokensFrom done ⟨cs, p⟩ = .ok (done.reverse ++ tokens) ∧
      tokens.map Token.kind = kinds ++ [.endOfText] := by
  induction h generalizing done p with
  | nil => exact ⟨[⟨.endOfText, p⟩], tokensFrom_end rfl, rfl⟩
  | @cons c gap kind cs kinds rest hblank hgap hkind h ih =>
    obtain ⟨q, r, hstep⟩ := tokensFrom_spelled (hgap.blank hblank) hkind h.blankAhead done p
    obtain ⟨tokens, hrun, hkinds⟩ := ih (⟨kind, q⟩ :: done) r
    refine ⟨⟨kind, q⟩ :: tokens, ?_, ?_⟩
    · rw [List.cons_append] at hstep
      rw [hstep, hrun]
      simp
    · simp [hkinds]

lemma tokenize_renders {kinds : List Token.Kind} {cs : List Char} (h : Renders kinds cs) :
    ∃ tokens, tokenize cs = .ok tokens ∧ tokens.map Token.kind = kinds ++ [.endOfText] := by
  cases h with
  | nil => exact ⟨[⟨.endOfText, ⟨1, 1⟩⟩], tokensFrom_end rfl, rfl⟩
  | @cons kind cs kinds rest hkind h =>
    obtain ⟨q, r, hstep⟩ := tokensFrom_spelled .nil hkind h.blankAhead [] ⟨1, 1⟩
    obtain ⟨tokens, hrun, hkinds⟩ := tokensFrom_trails h [⟨kind, q⟩] r
    refine ⟨⟨kind, q⟩ :: tokens, ?_, ?_⟩
    · exact hstep.trans hrun
    · simp [hkinds]

end Reading

/-- No two lists of tokens can be written as one text. -/
theorem Renders.unique {kinds kinds' : List Token.Kind} {cs : List Char}
    (h : Renders kinds cs) (h' : Renders kinds' cs) : kinds = kinds' := by
  obtain ⟨tokens, hread, hkinds⟩ := tokenize_renders h
  obtain ⟨tokens', hread', hkinds'⟩ := tokenize_renders h'
  obtain rfl : tokens = tokens' := Except.ok.inj (hread.symm.trans hread')
  exact List.append_cancel_right (hkinds.symm.trans hkinds')

/-- Tokens that can be written can be written one after the other, and however
that is done, just they are read back. -/
theorem tokenize_rendered (kinds : List Token.Kind) (h : ∀ kind ∈ kinds, kind.IsWritable) :
    (∃ cs, Renders kinds cs) ∧
    ∀ cs, Renders kinds cs → ∃ tokens, tokenize cs = .ok tokens ∧
      tokens.map Token.kind = kinds ++ [.endOfText] :=
  ⟨exists_renders h, fun _ hcs => tokenize_renders hcs⟩

/-- Tokens that could be taken for others where they meet. -/
def crowdedKinds : List Token.Kind :=
  [.keyword .letWord, .name "é1", .symbol .assign, .symbol .assign, .literal (.text "'\"\n"),
    .symbol .slash, .literal (.float (Decimal.ofDecimal false 150 (-2))), .symbol .dot,
    .literal (.int 9223372036854775807), .literal .null, .symbol .pipe]

/-- One way to write them. -/
def crowdedText : List Char :=
  ["const", " ", "é1", "\t// =\n", "=", " ", "=", " ", "'\\'\"\\n'", " ", "/", " /*/ **/", "1.50",
    " ", ".", " ", "9223372036854775807", "\u3000", "undefined", " ", "|"].flatMap String.toList

theorem tokenize_crowdedText : (∀ kind ∈ crowdedKinds, kind.IsWritable) ∧
    Renders crowdedKinds crowdedText ∧
    ∃ tokens, tokenize crowdedText = .ok tokens ∧
      tokens.map Token.kind = crowdedKinds ++ [.endOfText] := by
  have hone : IsNumeral "1".toList := by decide
  have hfifty : IsNumeral "50".toList := by decide
  have hname : IsName "é1" := by decide +kernel
  have hfloat : Decimal.readFloat? "1.50".toList = some (Decimal.ofDecimal false 150 (-2)) :=
    readFloat?_decimal hone hfifty
  have hwritable : ∀ kind ∈ crowdedKinds, kind.IsWritable := by
    simp only [crowdedKinds, List.forall_mem_cons, List.not_mem_nil, false_imp_iff,
      implies_true, and_true]
    exact ⟨trivial, hname, trivial, trivial, trivial, trivial, ⟨_, _, hone, hfifty, hfloat⟩,
      trivial, (by decide : (0 : Int) ≤ Int64.toInt 9223372036854775807), trivial, trivial⟩
  have htext : QuotedAs '\'' "'\"\n".toList "\\'\"\\n".toList :=
    .escaped (by decide) (.plain (by decide) (by decide) (.escaped (by decide) .nil))
  have hline : Gap "// =\n".toList := @Gap.lineComment " =".toList [] (by decide) .nil
  have hblock : Gap "/*/ **/".toList := @Gap.blockComment "/ *".toList [] (by decide) .nil
  have hrenders : Renders crowdedKinds crowdedText :=
    @Renders.cons _ "const".toList _ _ (.keyword .letWord (by decide)) <|
    @Trails.cons ' ' [] _ _ _ _ rfl .nil (.name hname) <|
    @Trails.cons '\t' _ _ _ _ _ rfl hline (.symbol .assign) <|
    @Trails.cons ' ' [] _ _ _ _ rfl .nil (.symbol .assign) <|
    @Trails.cons ' ' [] _ _ _ _ rfl .nil (.text (.inr rfl) htext) <|
    @Trails.cons ' ' [] _ _ _ _ rfl .nil (.symbol .slash) <|
    @Trails.cons ' ' _ _ _ _ _ rfl hblock (.float hone hfifty hfloat) <|
    @Trails.cons ' ' [] _ _ _ _ rfl .nil (.symbol .dot) <|
    @Trails.cons ' ' [] _ "9223372036854775807".toList _ _ rfl .nil
      (.int (by decide) (by decide)) <|
    @Trails.cons '\u3000' [] _ "undefined".toList _ _ rfl .nil (.null (by decide)) <|
    @Trails.cons ' ' [] _ _ _ _ rfl .nil (.symbol .pipe) .nil
  exact ⟨hwritable, hrenders, (tokenize_rendered crowdedKinds hwritable).2 _ hrenders⟩

end MockupStudio.Script
