/-
The tokens of a text tile it.

* `Position.behind`: line and column told from the text before a character;
* `exists_gap`: the longest gap at the front of a text, and where it ends;
* `takesToken_of_readToken`: what one token takes of the text;
* `IsLexeme`: what is one token when it stands alone;
* `Tiled`: a text as gaps and lexemes, each token where its lexeme begins;
* `Offends`: what makes it impossible to go on;
* `Tiled.step`: reading a token lays one more tile;
* `tokenize_lexes`: every text is tiled to its end or up to an offender.
-/
import MockupStudio.Proofs.Script.Rendering

namespace MockupStudio.Script

/-! ### Lines and columns -/

/-- The place of a character behind a text: its line is one more than the line
ends of the text, its column one more than the characters after the last. -/
def Position.behind (before : List Char) : Position :=
  ⟨1 + before.count '\n', 1 + (before.reverse.takeWhile (· ≠ '\n')).length⟩

lemma Position.behind_concat (before : List Char) (c : Char) :
    behind (before ++ [c]) = (behind before).advance c := by
  by_cases hc : c = '\n'
  · subst hc
    simp [behind, advance, Nat.add_assoc]
  · simp [behind, advance, hc, Nat.add_assoc]

/-- Going through a text from its start ends behind it. -/
lemma Position.behind_append (before cs : List Char) :
    behind (before ++ cs) = (behind before).after cs := by
  induction cs generalizing before with
  | nil => simp
  | cons c cs ih => rw [List.append_cons, ih, behind_concat, after_cons]

/-! ### Where a gap ends -/

/-- A text that goes on with no blank and no comment. -/
def Starts (cs : List Char) : Prop :=
  (∀ c ∈ cs.head?, Text.isBlank c = false) ∧ ¬ ['/', '/'] <+: cs ∧ ¬ ['/', '*'] <+: cs

lemma Starts.front (cs : List Char) {rest : List Char} (h : Starts (cs ++ rest)) :
    Starts cs := by
  obtain ⟨hblank, hline, hblock⟩ := h
  have hfront := List.prefix_append cs rest
  refine ⟨fun c hc => hblank c ?_, fun h => hline (h.trans hfront),
    fun h => hblock (h.trans hfront)⟩
  rw [List.head?_append, hc]
  rfl

lemma skipGap_starts {cs : List Char} (h : Starts cs) (p : Position) :
    skipGap .between cs p = .ok ⟨cs, p⟩ := by
  obtain ⟨hblank, hline, hblock⟩ := h
  rw [skipGap.eq_def]
  split <;> simp_all

lemma skipGap_lineComment_end {body : List Char} (h : '\n' ∉ body) (p : Position) :
    skipGap .lineComment body p = .ok ⟨[], p.after body⟩ := by
  induction body generalizing p with
  | nil => rfl
  | cons c body ih =>
    rw [List.mem_cons, not_or] at h
    rw [skipGap.eq_def]
    simpa [Ne.symm h.1] using ih h.2 (p.advance c)

lemma skipGap_openLine {body : List Char} (h : '\n' ∉ body) (p : Position) :
    skipGap .between ('/' :: '/' :: body) p = .ok ⟨[], p.after ('/' :: '/' :: body)⟩ := by
  rw [skipGap.eq_def]
  exact skipGap_lineComment_end h _

lemma skipGap_blockComment_end {body : List Char} (h : ¬ ['*', '/'] <:+: body)
    (start p : Position) : skipGap (.blockComment start) body p = .error start := by
  induction body generalizing p with
  | nil => rfl
  | cons c body ih =>
    rw [List.infix_cons_iff, not_or] at h
    have hopen : ∀ tail, c = '*' → body ≠ '/' :: tail := by
      rintro tail rfl rfl
      exact h.1 (List.prefix_append ['*', '/'] tail)
    rw [skipGap.eq_def, ← ih h.2 (p.advance c)]
    split <;> simp_all

lemma skipGap_openBlock {body : List Char} (h : ¬ ['*', '/'] <:+: body) (p : Position) :
    skipGap .between ('/' :: '*' :: body) p = .error p := by
  rw [skipGap.eq_def]
  exact skipGap_blockComment_end h p _

/-- A text in which a comment ends has a first place where it does. -/
lemma exists_first_end {cs : List Char} (h : ['*', '/'] <:+: cs) :
    ∃ body rest, cs = body ++ '*' :: '/' :: rest ∧ ¬ ['*', '/'] <:+: body := by
  induction cs with
  | nil => simp at h
  | cons c cs ih =>
    by_cases hhere : ['*', '/'] <+: c :: cs
    · obtain ⟨rest, hrest⟩ := hhere
      exact ⟨[], rest, hrest.symm, by simp⟩
    · obtain ⟨body, rest, rfl, hbody⟩ := ih ((List.infix_cons_iff.mp h).resolve_left hhere)
      refine ⟨c :: body, rest, rfl, fun hinfix => ?_⟩
      obtain hfront | hinfix := List.infix_cons_iff.mp hinfix
      · exact hhere (hfront.trans (List.prefix_append (c :: body) ('*' :: '/' :: rest)))
      · exact hbody hinfix

/-- Where the longest gap at the front of a text ends: at the start of a token
or the end of the text, in a line comment without a line end, or in a block
comment that is never closed. -/
inductive GapEnds : List Char → Prop where
  | starts (h : Starts cs) : GapEnds cs
  | openLine (h : '\n' ∉ body) : GapEnds ('/' :: '/' :: body)
  | openBlock (h : ¬ ['*', '/'] <:+: body) : GapEnds ('/' :: '*' :: body)

lemma exists_gap (cs : List Char) : ∃ gap rest, cs = gap ++ rest ∧ Gap gap ∧ GapEnds rest := by
  induction hn : cs.length using Nat.strong_induction_on generalizing cs with
  | _ n ih =>
    subst hn
    by_cases hline : ['/', '/'] <+: cs
    · obtain ⟨cs, rfl⟩ := hline
      by_cases hend : '\n' ∈ cs
      · obtain ⟨body, tail, rfl, hbody⟩ := List.eq_append_cons_of_mem hend
        obtain ⟨gap, rest, rfl, hgap, hrest⟩ := ih tail.length (by simp; omega) tail rfl
        exact ⟨_, rest, by simp, .lineComment hbody hgap, hrest⟩
      · exact ⟨[], _, rfl, .nil, .openLine hend⟩
    by_cases hblock : ['/', '*'] <+: cs
    · obtain ⟨cs, rfl⟩ := hblock
      by_cases hend : ['*', '/'] <:+: cs
      · obtain ⟨body, tail, rfl, hbody⟩ := exists_first_end hend
        obtain ⟨gap, rest, rfl, hgap, hrest⟩ := ih tail.length (by simp; omega) tail rfl
        exact ⟨_, rest, by simp, .blockComment hbody hgap, hrest⟩
      · exact ⟨[], _, rfl, .nil, .openBlock hend⟩
    by_cases hblank : ∀ c ∈ cs.head?, Text.isBlank c = false
    · exact ⟨[], cs, rfl, .nil, .starts ⟨hblank, hline, hblock⟩⟩
    · cases cs with
      | nil => simp at hblank
      | cons c tail =>
        obtain ⟨gap, rest, rfl, hgap, hrest⟩ := ih tail.length (by simp) tail rfl
        have hc : Text.isBlank c := by simpa using hblank
        exact ⟨c :: gap, rest, rfl, .blank hc hgap, hrest⟩

/-! ### What one token takes -/

/-- A reader takes the front of a text, moves over it, and reads just as much
when nothing follows. -/
def Takes (read : List Char → Position → β) (result : Cursor → β) (cs : List Char)
    (p : Position) (next : Cursor) : Prop :=
  ∃ taken, cs = taken ++ next.rest ∧ next.position = p.after taken ∧
    ∀ q, read taken q = result ⟨[], q.after taken⟩

lemma readText_takes {quote : Char} {out cs value : List Char} {p : Position} {next : Cursor}
    (h : readText quote out cs p = some (value, next)) :
    Takes (readText quote out) (fun next => some (value, next)) cs p next := by
  fun_induction readText quote out cs p with
  | case1 => cases h
  | case2 =>
    cases h
    exact ⟨[quote], rfl, rfl, fun q => by rw [readText.eq_def]; simp⟩
  | case3 => cases h
  | case4 out p d cs hquote ih =>
    obtain ⟨taken, hcs, hp, hread⟩ := ih h
    refine ⟨'\\' :: d :: taken, by rw [hcs]; rfl, hp, fun q => ?_⟩
    rw [readText]
    simpa [hquote] using hread ((q.advance '\\').advance d)
  | case5 out c cs p hquote hslash ih =>
    obtain ⟨taken, hcs, hp, hread⟩ := ih h
    refine ⟨c :: taken, by rw [hcs]; rfl, hp, fun q => ?_⟩
    rw [readText.eq_def]
    simpa [hquote, hslash] using hread (q.advance c)

lemma map_wholeKind_ok {digits : List Char} {kind : Token.Kind} {next next' : Cursor}
    (h : (wholeKind digits).map (·, next') = .ok (kind, next)) :
    wholeKind digits = .ok kind ∧ next = next' := by
  cases hkind : wholeKind digits with
  | error => simp [hkind, Except.map] at h
  | ok kind' =>
    simp only [hkind, Except.map, Except.ok.injEq, Prod.mk.injEq] at h
    exact ⟨congrArg _ h.1, h.2.symm⟩

lemma readNumber_takes {cs : List Char} {kind : Token.Kind} {p : Position} {next : Cursor}
    (h : readNumber cs p = .ok (kind, next)) :
    Takes readNumber (fun next => .ok (kind, next)) cs p next := by
  have hsplit := List.takeWhile_append_dropWhile (p := Char.isDigit) (l := cs)
  have hdigits := @List.mem_takeWhile_imp _ Char.isDigit cs
  have hwhole : ∀ rest, cs.dropWhile Char.isDigit = rest →
      (wholeKind (cs.takeWhile Char.isDigit)).map
        (·, ⟨rest, p.after (cs.takeWhile Char.isDigit)⟩) = .ok (kind, next) →
      Takes readNumber (fun next => .ok (kind, next)) cs p next := by
    rintro rest rfl hkind
    obtain ⟨hvalue, rfl⟩ := map_wholeKind_ok hkind
    refine ⟨_, hsplit.symm, rfl, fun q => ?_⟩
    have hlone := @readNumber_whole _ [] (fun _ => hdigits) (by simp) nofun q
    rw [List.append_nil, hvalue] at hlone
    exact hlone
  unfold readNumber at h
  split at h
  · next d rest hrest =>
    split at h
    · next hd =>
      cases h
      have hfraction : IsNumeral ((d :: rest).takeWhile Char.isDigit) :=
        ⟨by simp [hd], fun _ => List.mem_takeWhile_imp⟩
      refine ⟨cs.takeWhile Char.isDigit ++ '.' :: (d :: rest).takeWhile Char.isDigit, ?_, ?_,
        fun q => ?_⟩
      · rw [List.append_assoc, List.cons_append, List.takeWhile_append_dropWhile, ← hrest,
          hsplit]
      · rw [Position.after_append]
        rfl
      · simpa using @readNumber_decimal _ _ [] (fun _ => hdigits) hfraction (by simp) q
    · exact hwhole _ hrest h
  · exact hwhole _ rfl h

/-- What is read as a symbol begins with its spelling. -/
lemma symbol?_eq_some {cs : List Char} {m : Symbol} (h : symbol? cs = some m) :
    ∃ rest, cs = m.spelling ++ rest := by
  unfold symbol? at h
  split at h <;> cases h <;> exact ⟨_, rfl⟩

/-- What begins with the spelling of a symbol is read as some symbol. -/
lemma symbol?_ne_none (m : Symbol) (rest : List Char) : symbol? (m.spelling ++ rest) ≠ none := by
  intro h
  unfold symbol? at h
  split at h
  case h_27 => cases m <;> grind [Symbol.spelling]
  all_goals cases h

lemma Symbol.after_spelling (m : Symbol) (p : Position) :
    p.after m.spelling = ⟨p.line, p.column + m.spelling.length⟩ := by
  cases m <;> rfl

/-- A token takes its first character and some that follow, and is the same
when nothing follows them. -/
def TakesToken (kind : Token.Kind) (c : Char) (cs : List Char) (p : Position)
    (next : Cursor) : Prop :=
  ∃ tail, cs = tail ++ next.rest ∧ next.position = p.after (c :: tail) ∧
    ∀ q, readToken c tail q = .ok (kind, ⟨[], q.after (c :: tail)⟩)

section TakesToken

variable {c : Char} {cs : List Char} {kind : Token.Kind} {p : Position} {next : Cursor}

lemma takesToken_symbol {m : Symbol} (h : symbol? (c :: cs) = some m) :
    TakesToken (.symbol m) c cs p
      ⟨(c :: cs).drop m.spelling.length, ⟨p.line, p.column + m.spelling.length⟩⟩ := by
  obtain ⟨rest, hrest⟩ := symbol?_eq_some h
  obtain ⟨tail, hspell⟩ : ∃ tail, m.spelling = c :: tail := by
    cases m <;> cases hrest <;> exact ⟨_, rfl⟩
  have hlone : symbol? (c :: tail) = some m := by
    have hread := @symbol?_spelling m [] (by simp [BlankAhead])
    rwa [List.append_nil, hspell] at hread
  rw [hspell, List.cons_append, List.cons.injEq] at hrest
  obtain ⟨-, rfl⟩ := hrest
  refine ⟨tail, by simp [hspell], ?_, fun q => ?_⟩
  · rw [← hspell, Symbol.after_spelling]
  · rw [readToken, hlone, ← hspell, Symbol.after_spelling]
    simp [hspell]

lemma takesToken_text {value : List Char} (hquote : c = '"' ∨ c = '\'')
    (h : readText c [] cs (p.advance c) = some (value, next)) :
    TakesToken (.literal (.text (String.ofList value))) c cs p next := by
  obtain ⟨tail, hcs, hp, hread⟩ := readText_takes h
  refine ⟨tail, hcs, hp, fun q => ?_⟩
  rw [readToken, Opens.symbol?_eq_none (.inl hquote)]
  simp [hquote, hread (q.advance c)]

lemma takesToken_number (hdigit : c.isDigit) (h : readNumber (c :: cs) p = .ok (kind, next)) :
    TakesToken kind c cs p next := by
  have hquote : ¬ (c = '"' ∨ c = '\'') := by
    rintro (rfl | rfl) <;> revert hdigit <;> decide
  obtain ⟨taken, hcs, hp, hread⟩ := readNumber_takes h
  obtain ⟨tail, rfl⟩ : ∃ tail, taken = c :: tail := by
    cases taken with
    | nil =>
      have hlength := readNumber_length hdigit h
      rw [← show c :: cs = next.rest from hcs, List.length_cons] at hlength
      omega
    | cons d tail => exact ⟨tail, by rw [(List.cons.inj hcs).1]⟩
  refine ⟨tail, (List.cons.inj hcs).2, hp, fun q => ?_⟩
  rw [readToken, Opens.symbol?_eq_none (.inr (.inl hdigit))]
  simpa [hquote, hdigit] using hread q

lemma takesToken_word (hstart : isNameStart c) :
    TakesToken (wordKind (String.ofList (c :: cs.takeWhile isNamePart))) c cs p
      ⟨cs.dropWhile isNamePart, (p.advance c).after (cs.takeWhile isNamePart)⟩ := by
  have hquote : ¬ (c = '"' ∨ c = '\'') := by
    rintro (rfl | rfl) <;> revert hstart <;> decide +kernel
  have hpart : ∀ d ∈ cs.takeWhile isNamePart, isNamePart d := fun _ => List.mem_takeWhile_imp
  refine ⟨cs.takeWhile isNamePart, List.takeWhile_append_dropWhile.symm, rfl, fun q => ?_⟩
  rw [readToken, Opens.symbol?_eq_none (.inr (.inr hstart))]
  simp only [hquote, isDigit_eq_false_of_isNameStart hstart, hstart, if_false, if_true,
    Bool.false_eq_true, List.takeWhile_eq_self_iff.mpr hpart,
    List.dropWhile_eq_nil_iff.mpr hpart, Position.after_cons]

lemma takesToken_of_readToken (h : readToken c cs p = .ok (kind, next)) :
    TakesToken kind c cs p next := by
  unfold readToken at h
  split at h
  · next hm =>
    cases h
    exact takesToken_symbol hm
  · split at h
    · next hquote =>
      split at h
      · next hvalue =>
        cases h
        exact takesToken_text hquote hvalue
      · cases h
    · split at h
      · next hdigit => exact takesToken_number hdigit h
      · split at h
        · next hstart =>
          cases h
          exact takesToken_word hstart
        · cases h

/-- No characters are read as the end of the text. -/
lemma kind_ne_of_readToken (h : readToken c cs p = .ok (kind, next)) : kind ≠ .endOfText := by
  have hword : ∀ word, wordKind word ≠ .endOfText := by
    intro word
    unfold wordKind
    split_ifs <;> try simp
    split <;> simp
  have hwhole : ∀ digits next', (wholeKind digits).map (·, next') = .ok (kind, next) →
      kind ≠ .endOfText := by
    intro digits next' hmap
    have hkind := (map_wholeKind_ok hmap).1
    unfold wholeKind at hkind
    dsimp only at hkind
    split_ifs at hkind
    cases hkind
    simp
  unfold readToken readNumber at h
  split at h
  · cases h
    simp
  · split_ifs at h
    · split at h <;> cases h
      simp
    · split at h
      · split_ifs at h
        · cases h
          simp [fractionKind]
        · exact hwhole _ _ h
      · exact hwhole _ _ h
    · cases h
      exact hword _

end TakesToken

/-! ### Tiles -/

/-- Characters that are one token when they stand alone. -/
def IsLexeme (kind : Token.Kind) (text : List Char) : Prop :=
  kind ≠ .endOfText ∧
    ∃ p, tokenize text = .ok [⟨kind, ⟨1, 1⟩⟩, ⟨.endOfText, p⟩]

/-- A text as gaps and lexemes, the last of them at its end; each token stands
where its lexeme begins. -/
inductive Tiled : List Char → List Token → Prop where
  | nil : Tiled [] []
  | concat (h : Tiled before tokens) (hgap : Gap gap) (hkind : IsLexeme kind text) :
    Tiled (before ++ gap ++ text) (tokens ++ [⟨kind, .behind (before ++ gap)⟩])

/-- A gap at the end of a text: its last line comment may lack the line end. -/
inductive LastGap : List Char → Prop where
  | gap (h : Gap gap) : LastGap gap
  | openLine (h : Gap gap) (hbody : '\n' ∉ body) : LastGap (gap ++ '/' :: '/' :: body)

/-- The rest of a quoted text that is not closed: a quote may stand only behind
a backslash. -/
inductive Unclosed (quote : Char) : List Char → Prop where
  | nil : Unclosed quote []
  | slash : Unclosed quote ['\\']
  | plain (hquote : c ≠ quote) (hslash : c ≠ '\\') (h : Unclosed quote cs) :
    Unclosed quote (c :: cs)
  | escaped (h : Unclosed quote cs) : Unclosed quote ('\\' :: d :: cs)

/-- The text from an offender on: a character that begins no token, a block
comment or quoted text that is not closed, or digits of a whole number above the
64-bit range. -/
inductive Offends : LexError.Cause → List Char → Prop where
  | unexpected (hblank : Text.isBlank c = false) (hopens : ¬ Opens c)
    (h : ∀ kind text, text <+: c :: cs → ¬ IsLexeme kind text) :
    Offends (.unexpected c) (c :: cs)
  | comment (h : ¬ ['*', '/'] <:+: body) : Offends .unterminatedComment ('/' :: '*' :: body)
  | text (hquote : quote = '"' ∨ quote = '\'') (h : Unclosed quote body) :
    Offends .unterminatedText (quote :: body)
  | number (hdigits : IsNumeral digits) (hend : ∀ c ∈ rest.head?, c.isDigit = false)
    (hpoint : ∀ c tail, rest = '.' :: c :: tail → c.isDigit = false)
    (hlarge : twoTo 63 ≤ Decimal.naturalOf digits) :
    Offends (.numberTooLarge digits) (digits ++ rest)

/-- How a text is read: it is tiled to its end, or up to a gap and an offender. -/
inductive Lexes : List Char → Except LexError (List Token) → Prop where
  | ok (h : Tiled before tokens) (hgap : LastGap gap) :
    Lexes (before ++ gap) (.ok (tokens ++ [⟨.endOfText, .behind (before ++ gap)⟩]))
  | error (h : Tiled before tokens) (hgap : Gap gap) (hoffends : Offends cause rest) :
    Lexes (before ++ gap ++ rest) (.error ⟨cause, .behind (before ++ gap)⟩)

/-! ### Reading tile by tile -/

section Reading

variable {c : Char} {cs : List Char} {kind : Token.Kind} {p : Position}
  {cause : LexError.Cause} {next : Cursor} {done : List Token} {cursor : Cursor}

lemma tokensFrom_openBlock (h : skipGap .between cursor.rest cursor.position = .error p) :
    tokensFrom done cursor = .error ⟨.unterminatedComment, p⟩ := by
  rw [tokensFrom.eq_def]
  split <;> simp_all

lemma tokensFrom_offender
    (hskip : skipGap .between cursor.rest cursor.position = .ok ⟨c :: cs, p⟩)
    (hread : readToken c cs p = .error cause) :
    tokensFrom done cursor = .error ⟨cause, p⟩ := by
  rw [tokensFrom.eq_def]
  split <;> simp_all
  split <;> simp_all

/-- What is read from a text is a lexeme at its front. -/
lemma TakesToken.exists_isLexeme (hstarts : Starts (c :: cs)) (hne : kind ≠ .endOfText)
    (h : TakesToken kind c cs p next) :
    ∃ text, c :: cs = text ++ next.rest ∧ next.position = p.after text ∧ IsLexeme kind text := by
  obtain ⟨tail, rfl, hp, hread⟩ := h
  have hskip := skipGap_starts (hstarts.front (c :: tail)) ⟨1, 1⟩
  refine ⟨c :: tail, rfl, hp, hne, Position.after ⟨1, 1⟩ (c :: tail), ?_⟩
  rw [tokenize, tokensFrom_token hskip (hread _), tokensFrom_end rfl]
  rfl

lemma not_isLexeme_of_unexpected (hnone : symbol? (c :: cs) = none) (hopens : ¬ Opens c)
    (hstarts : Starts (c :: cs)) (kind : Token.Kind) (text : List Char)
    (htext : text <+: c :: cs) : ¬ IsLexeme kind text := by
  rintro ⟨-, p, hlone⟩
  obtain ⟨rest, hrest⟩ := htext
  cases text with
  | nil =>
    rw [tokenize, tokensFrom_end rfl] at hlone
    cases hlone
  | cons d tail =>
    obtain ⟨rfl, rfl⟩ := List.cons.inj hrest
    have hskip := skipGap_starts (hstarts.front (d :: tail)) ⟨1, 1⟩
    have hsymbol : symbol? (d :: tail) = none := by
      cases hm : symbol? (d :: tail) with
      | none => rfl
      | some m =>
        obtain ⟨tail', htail⟩ := symbol?_eq_some hm
        rw [hrest.symm, htail, List.append_assoc] at hnone
        exact absurd hnone (symbol?_ne_none m _)
    have hread : readToken d tail ⟨1, 1⟩ = .error (.unexpected d) := by
      simp only [Opens, not_or] at hopens
      simp [readToken, hsymbol, hopens]
    rw [tokenize, tokensFrom_offender hskip hread] at hlone
    cases hlone

lemma unclosed_of_readText {quote : Char} {out : List Char} (h : readText quote out cs p = none) :
    Unclosed quote cs := by
  fun_induction readText quote out cs p with
  | case1 => exact .nil
  | case2 => cases h
  | case3 => exact .slash
  | case4 _ _ _ _ _ ih => exact .escaped (ih h)
  | case5 _ _ _ _ hquote hslash ih => exact .plain hquote hslash (ih h)

lemma map_wholeKind_error {digits : List Char}
    (h : (wholeKind digits).map (·, next) = .error cause) :
    cause = .numberTooLarge digits ∧ twoTo 63 ≤ Decimal.naturalOf digits := by
  unfold wholeKind at h
  dsimp only at h
  split_ifs at h with hsmall
  · cases h
  · cases h
    exact ⟨rfl, Nat.le_of_not_lt hsmall⟩

lemma offends_of_readNumber (hdigit : c.isDigit) (h : readNumber (c :: cs) p = .error cause) :
    Offends cause (c :: cs) := by
  have hdigits : IsNumeral ((c :: cs).takeWhile Char.isDigit) :=
    ⟨by simp [hdigit], fun _ => List.mem_takeWhile_imp⟩
  have hend : ∀ d ∈ ((c :: cs).dropWhile Char.isDigit).head?, d.isDigit = false := by
    intro d hd
    have hnot := List.head?_dropWhile_not Char.isDigit (c :: cs)
    rwa [hd] at hnot
  have hnumber : ∀ next : Cursor, (wholeKind ((c :: cs).takeWhile Char.isDigit)).map (·, next)
        = .error cause →
      (∀ d tail, (c :: cs).dropWhile Char.isDigit = '.' :: d :: tail → d.isDigit = false) →
      Offends cause (c :: cs) := by
    intro next hmap hpoint
    obtain ⟨rfl, hlarge⟩ := map_wholeKind_error hmap
    have hoffends := Offends.number hdigits hend hpoint hlarge
    rwa [List.takeWhile_append_dropWhile] at hoffends
  unfold readNumber at h
  split at h
  · next d rest hrest =>
    split_ifs at h with hd
    refine hnumber _ h fun d' tail hpoint => ?_
    rw [hrest] at hpoint
    cases hpoint
    simpa using hd
  · next hrest => exact hnumber _ h fun d tail hpoint => (hrest d tail hpoint).elim

/-- Where no token can be read there is an offender. -/
lemma offends_of_readToken (hstarts : Starts (c :: cs)) (h : readToken c cs p = .error cause) :
    Offends cause (c :: cs) := by
  unfold readToken at h
  split at h
  · cases h
  · next hnone =>
    split_ifs at h with hquote hdigit hstart
    · split at h
      · cases h
      · next hread =>
        cases h
        exact .text hquote (unclosed_of_readText hread)
    · exact offends_of_readNumber hdigit h
    · cases h
      have hopens : ¬ Opens c := by simp [Opens, hquote, hdigit, hstart]
      exact .unexpected (hstarts.1 c rfl) hopens
        (not_isLexeme_of_unexpected hnone hopens hstarts)

/-- Reading a token behind a gap lays one more tile. -/
lemma Tiled.step {before gap : List Char} (h : Tiled before done.reverse) (hgap : Gap gap)
    (hstarts : Starts (c :: cs))
    (hread : readToken c cs (.behind (before ++ gap)) = .ok (kind, next)) :
    ∃ beyond, before ++ gap ++ c :: cs = beyond ++ next.rest ∧ next.position = .behind beyond ∧
      Tiled beyond (⟨kind, .behind (before ++ gap)⟩ :: done).reverse := by
  obtain ⟨text, htext, hnext, hlexeme⟩ := (takesToken_of_readToken hread).exists_isLexeme
    hstarts (kind_ne_of_readToken hread)
  refine ⟨before ++ gap ++ text, ?_, ?_, ?_⟩
  · rw [htext, List.append_assoc _ text]
  · rw [hnext, ← Position.behind_append]
  · rw [List.reverse_cons]
    exact .concat h hgap hlexeme

/-- What is left of a text is read on behind the tiles. -/
lemma tokensFrom_lexes {before : List Char} (h : Tiled before done.reverse) (cs : List Char) :
    Lexes (before ++ cs) (tokensFrom done ⟨cs, .behind before⟩) := by
  -- on what is left; the tiles before it hold all that is known of the rest
  induction hn : cs.length using Nat.strong_induction_on generalizing before done cs with
  | _ n ih =>
    subst hn
    obtain ⟨gap, rest, rfl, hgap, hends⟩ := exists_gap cs
    have hskip := skipGap_gap hgap rest (.behind before)
    rw [← Position.behind_append] at hskip
    rw [← List.append_assoc]
    cases hends with
    | openLine hbody =>
      rw [skipGap_openLine hbody, ← Position.behind_append] at hskip
      rw [tokensFrom_end hskip, List.append_assoc]
      exact .ok h (.openLine hgap hbody)
    | openBlock hbody =>
      rw [skipGap_openBlock hbody] at hskip
      rw [tokensFrom_openBlock hskip]
      exact .error h hgap (.comment hbody)
    | starts hstarts =>
      rw [skipGap_starts hstarts] at hskip
      cases rest with
      | nil =>
        rw [tokensFrom_end hskip, List.append_nil]
        exact .ok h (.gap hgap)
      | cons c tail =>
        cases hread : readToken c tail (.behind (before ++ gap)) with
        | error cause =>
          rw [tokensFrom_offender hskip hread]
          exact .error h hgap (offends_of_readToken hstarts hread)
        | ok result =>
          obtain ⟨kind, left, p⟩ := result
          obtain ⟨beyond, hbeyond, rfl, htiled⟩ := h.step hgap hstarts hread
          have hshorter : left.length ≤ tail.length := readToken_length hread
          rw [tokensFrom_token hskip hread, hbeyond]
          exact ih left.length (by simp; omega) htiled left rfl

end Reading

/-- Every text is tiled by its tokens, to its end or up to an offender: only
blanks and complete comments stand between them, each is what its characters give
alone, and stands at their line and column; the end of the text follows the last,
and a failure points at the first character of the offender. -/
theorem tokenize_lexes (source : List Char) : Lexes source (tokenize source) :=
  have h : Tiled [] ([] : List Token).reverse := .nil
  tokensFrom_lexes h source

end MockupStudio.Script
