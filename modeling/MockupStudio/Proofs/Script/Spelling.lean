/-
Ways to write a token, and how each is read.

* `IsWord`, `IsName`: what is read as one word, and the words left for names;
* `QuotedAs`: the ways to write a text between quotes;
* `Spells`: the ways to write a token, canonical or not;
* `isWritable_iff`: which tokens can be written at all;
* `Spells.readsAs`: whichever way a token is written, it is read in full if the
  text ends there or goes on with a blank.
-/
import MockupStudio.Script.Lexer
import Mathlib.Data.List.TakeDrop
import Mathlib.Data.List.TakeWhile
import Mathlib.Tactic.Lemma

namespace MockupStudio.Script

/-! ### Positions after a text -/

@[simp]
lemma Position.after_nil (p : Position) : p.after [] = p := rfl

@[simp]
lemma Position.after_cons (p : Position) (c : Char) (cs : List Char) :
    p.after (c :: cs) = (p.advance c).after cs := rfl

lemma Position.after_append (p : Position) (cs ds : List Char) :
    p.after (cs ++ ds) = (p.after cs).after ds := List.foldl_append

/-! ### Characters -/

section Characters

variable {c d : Char}

/-- A class of characters is known by their codes. -/
lemma of_toNat_mem (P : Char → Prop) {codes : List Nat}
    (hall : ∀ n ∈ codes, P (Char.ofNat n)) (h : c.toNat ∈ codes) : P c := by
  have hc := hall c.toNat h
  rwa [Char.ofNat_toNat] at hc

/-- The codes of the blank characters. -/
def blankCodes : List Nat :=
  [0x9, 0xa, 0xb, 0xc, 0xd, 0x20, 0x85, 0xa0, 0x1680, 0x2000, 0x2001, 0x2002, 0x2003, 0x2004,
    0x2005, 0x2006, 0x2007, 0x2008, 0x2009, 0x200a, 0x2028, 0x2029, 0x202f, 0x205f, 0x3000]

lemma toNat_mem_blankCodes (h : Text.isBlank c) : c.toNat ∈ blankCodes := by
  simp only [Text.isBlank, Bool.or_eq_true, Bool.and_eq_true, decide_eq_true_eq] at h
  simp only [blankCodes, List.mem_cons, List.not_mem_nil, or_false]
  omega

lemma isNamePart_eq_false_of_isBlank (h : Text.isBlank c) : isNamePart c = false :=
  of_toNat_mem (isNamePart · = false) (by decide +kernel) (toNat_mem_blankCodes h)

lemma isDigit_eq_false_of_isBlank (h : Text.isBlank c) : c.isDigit = false :=
  of_toNat_mem (·.isDigit = false) (by decide +kernel) (toNat_mem_blankCodes h)

lemma ne_of_isBlank (h : Text.isBlank c) (hd : Text.isBlank d = false) : c ≠ d := by
  rintro rfl
  simp [h] at hd

lemma isBlank_eq_false_of_isDigit (h : c.isDigit) : Text.isBlank c = false :=
  Bool.eq_false_iff.mpr fun hb => by simp [isDigit_eq_false_of_isBlank hb] at h

lemma isNamePart_of_isNameStart (h : isNameStart c) : isNamePart c := by
  simp only [isNameStart, isNamePart, Bool.or_eq_true] at h ⊢
  obtain (h | h) | h := h <;> simp [h]

lemma isBlank_eq_false_of_isNameStart (h : isNameStart c) : Text.isBlank c = false :=
  Bool.eq_false_iff.mpr fun hb => by
    have hpart := isNamePart_of_isNameStart h
    simp [isNamePart_eq_false_of_isBlank hb] at hpart

/-- The codes of the decimal digits. -/
def digitCodes : List Nat := List.range' 48 10

lemma toNat_mem_digitCodes (h : c.isDigit) : c.toNat ∈ digitCodes := by
  simp only [Char.isDigit, Bool.and_eq_true, decide_eq_true_eq, UInt32.le_iff_toNat_le] at h
  exact List.mem_range'_1.mpr ⟨h.1, Nat.lt_succ_of_le h.2⟩

lemma isNameStart_eq_false_of_isDigit (h : c.isDigit) : isNameStart c = false :=
  of_toNat_mem (isNameStart · = false) (by decide +kernel) (toNat_mem_digitCodes h)

lemma isDigit_eq_false_of_isNameStart (h : isNameStart c) : c.isDigit = false :=
  Bool.eq_false_iff.mpr fun hd => by simp [isNameStart_eq_false_of_isDigit hd] at h

end Characters

/-! ### The first character of a token -/

/-- What the text after a token begins with: nothing or a blank. -/
def BlankAhead (rest : List Char) : Prop := ∀ c ∈ rest.head?, Text.isBlank c

lemma BlankAhead.ne_cons {rest tail : List Char} {d : Char} (h : BlankAhead rest)
    (hd : Text.isBlank d = false) : rest ≠ d :: tail := by
  rintro rfl
  simpa [hd] using h d rfl

/-- What every token but a symbol begins with. -/
def Opens (c : Char) : Prop := (c = '"' ∨ c = '\'') ∨ c.isDigit ∨ isNameStart c

instance : DecidablePred Opens := fun _ => inferInstanceAs (Decidable (_ ∨ _ ∨ _))

lemma Symbol.head_spelling (m : Symbol) :
    ∀ c ∈ m.spelling.head?, ¬ Opens c ∧ Text.isBlank c = false := by
  intro c hc
  cases m <;> cases hc <;> decide +kernel

lemma head_spelling_of_symbol? {c : Char} {cs : List Char} {m : Symbol}
    (h : symbol? (c :: cs) = some m) : m.spelling.head? = some c := by
  unfold symbol? at h
  split at h <;> cases h <;> simp_all [Symbol.spelling]

namespace Opens

variable {c : Char}

lemma isBlank_eq_false (h : Opens c) : Text.isBlank c = false := by
  obtain (rfl | rfl) | h | h := h
  · rfl
  · rfl
  · exact isBlank_eq_false_of_isDigit h
  · exact isBlank_eq_false_of_isNameStart h

lemma ne_slash (h : Opens c) : c ≠ '/' := by
  rintro rfl
  exact (Symbol.slash.head_spelling '/' rfl).1 h

lemma symbol?_eq_none (h : Opens c) (cs : List Char) : symbol? (c :: cs) = none :=
  Option.eq_none_iff_forall_ne_some.mpr fun m hm =>
    (m.head_spelling c (head_spelling_of_symbol? hm)).1 h

end Opens

/-! ### What is read up to the end of a token -/

/-- Characters are read as a token whatever may follow them, which is left
untouched. -/
def ReadsAs (kind : Token.Kind) (cs : List Char) : Prop :=
  ∀ rest, BlankAhead rest → ∀ p, ∃ c tail q, cs ++ rest = c :: tail ∧
    skipGap .between (c :: tail) p = .ok ⟨c :: tail, p⟩ ∧
    readToken c tail p = .ok (kind, ⟨rest, q⟩)

lemma skipGap_of_ne {c : Char} (hblank : Text.isBlank c = false) (hslash : c ≠ '/')
    (cs : List Char) (p : Position) :
    skipGap .between (c :: cs) p = .ok ⟨c :: cs, p⟩ := by
  rw [skipGap.eq_def]
  simp [hblank, hslash]

lemma readsAs_cons {c : Char} {cs : List Char} {kind : Token.Kind} (hc : Opens c)
    (h : ∀ rest, BlankAhead rest → ∀ p, ∃ q, readToken c (cs ++ rest) p = .ok (kind, ⟨rest, q⟩)) :
    ReadsAs kind (c :: cs) := by
  intro rest hrest p
  obtain ⟨q, hread⟩ := h rest hrest p
  exact ⟨c, cs ++ rest, q, rfl, skipGap_of_ne hc.isBlank_eq_false hc.ne_slash _ p, hread⟩

section Upto

variable {p : Char → Bool} {cs rest : List Char}

lemma takeWhile_upto (hp : ∀ c ∈ cs, p c) (hrest : ∀ c ∈ rest.head?, p c = false) :
    (cs ++ rest).takeWhile p = cs := by
  rw [List.takeWhile_append_of_pos hp]
  cases rest with
  | nil => simp
  | cons c rest => simp [hrest c rfl]

lemma dropWhile_upto (hp : ∀ c ∈ cs, p c) (hrest : ∀ c ∈ rest.head?, p c = false) :
    (cs ++ rest).dropWhile p = rest := by
  rw [List.dropWhile_append_of_pos hp]
  cases rest with
  | nil => rfl
  | cons c rest => simp [hrest c rfl]

end Upto

/-! ### Symbols -/

lemma symbol?_spelling (m : Symbol) {rest : List Char} (h : BlankAhead rest) :
    symbol? (m.spelling ++ rest) = some m := by
  -- `simp` looks these two up to tell the symbols that begin alike apart
  have hequal : ∀ tail, rest ≠ '=' :: tail := fun _ => h.ne_cons rfl
  have hpipe : ∀ tail, rest ≠ '|' :: tail := fun _ => h.ne_cons rfl
  cases m <;> simp [Symbol.spelling, symbol?]

lemma readToken_symbol {c : Char} {cs rest : List Char} {m : Symbol}
    (hm : m.spelling = c :: cs) (h : BlankAhead rest) (p : Position) :
    ∃ q, readToken c (cs ++ rest) p = .ok (.symbol m, ⟨rest, q⟩) := by
  have hread : symbol? (c :: (cs ++ rest)) = some m := by
    rw [← List.cons_append, ← hm]
    exact symbol?_spelling m h
  refine ⟨⟨p.line, p.column + m.spelling.length⟩, ?_⟩
  rw [readToken, hread]
  simp [hm]

/-- A slash before a blank opens no comment. -/
lemma skipGap_slash {rest : List Char} (h : BlankAhead rest) (p : Position) :
    skipGap .between ('/' :: rest) p = .ok ⟨'/' :: rest, p⟩ := by
  rw [skipGap.eq_def]
  cases rest with
  | nil => rfl
  | cons c rest =>
    have hslash : c ≠ '/' := ne_of_isBlank (h c rfl) rfl
    have hstar : c ≠ '*' := ne_of_isBlank (h c rfl) rfl
    have hblank : Text.isBlank '/' = false := rfl
    simp [hslash, hstar, hblank]

lemma readsAs_symbol (m : Symbol) : ReadsAs (.symbol m) m.spelling := by
  intro rest hrest p
  obtain ⟨c, cs, hm⟩ : ∃ c cs, m.spelling = c :: cs := by cases m <;> exact ⟨_, _, rfl⟩
  obtain ⟨q, hread⟩ := readToken_symbol hm hrest p
  refine ⟨c, cs ++ rest, q, by rw [hm, List.cons_append], ?_, hread⟩
  by_cases hslash : c = '/'
  · subst hslash
    obtain rfl : cs = [] := by cases m <;> cases hm; rfl
    exact skipGap_slash hrest p
  · exact skipGap_of_ne (m.head_spelling c (by simp [hm])).2 hslash _ p

/-! ### Words -/

/-- What is read as one word. -/
def IsWord : List Char → Prop
  | [] => False
  | c :: cs => isNameStart c ∧ cs.all isNamePart

instance : DecidablePred IsWord
  | [] => inferInstanceAs (Decidable False)
  | c :: cs => inferInstanceAs (Decidable (isNameStart c ∧ cs.all isNamePart))

lemma readsAs_word {word : List Char} (h : IsWord word) :
    ReadsAs (wordKind (String.ofList word)) word := by
  obtain ⟨c, cs, rfl⟩ : ∃ c cs, word = c :: cs := by
    cases word with
    | nil => exact h.elim
    | cons c cs => exact ⟨c, cs, rfl⟩
  obtain ⟨hstart, hpart⟩ := h
  rw [List.all_eq_true] at hpart
  have hopens : Opens c := .inr (.inr hstart)
  have hquote : ¬ (c = '"' ∨ c = '\'') := by
    rintro (rfl | rfl) <;> revert hstart <;> decide +kernel
  refine readsAs_cons hopens fun rest hrest p => ⟨(p.advance c).after cs, ?_⟩
  have hend : ∀ d ∈ rest.head?, isNamePart d = false := fun d hd =>
    isNamePart_eq_false_of_isBlank (hrest d hd)
  rw [readToken, hopens.symbol?_eq_none]
  simp only [hquote, if_false, isDigit_eq_false_of_isNameStart hstart, hstart, if_true,
    Bool.false_eq_true, takeWhile_upto hpart hend, dropWhile_upto hpart hend]

/-- The words with a meaning of their own. -/
def reserved : List String :=
  ["true", "false", "null", "undefined"] ++ Keyword.all.flatMap Keyword.spellings

/-- A word that is left for names. -/
structure IsName (word : String) : Prop where
  isWord : IsWord word.toList
  free : word ∉ reserved

instance : DecidablePred IsName := fun word =>
  decidable_of_iff (IsWord word.toList ∧ word ∉ reserved)
    ⟨fun h => ⟨h.1, h.2⟩, fun h => ⟨h.isWord, h.free⟩⟩

lemma readsAs_reserved {word : String} (h : word ∈ reserved) :
    ReadsAs (wordKind word) word.toList := by
  have hall : ∀ word ∈ reserved, IsWord word.toList := by decide +kernel
  simpa using readsAs_word (hall word h)

lemma Keyword.mem_all (k : Keyword) : k ∈ all := by cases k <;> decide

lemma readsAs_keyword {k : Keyword} {word : String} (h : word ∈ k.spellings) :
    ReadsAs (.keyword k) word.toList := by
  have hreserved : word ∈ reserved :=
    List.mem_append_right _ (List.mem_flatMap.mpr ⟨k, k.mem_all, h⟩)
  have hkind : wordKind word = .keyword k := by
    have hall : ∀ k ∈ Keyword.all, ∀ word ∈ k.spellings, Keyword.ofWord? word = some k ∧
        word ≠ "true" ∧ word ≠ "false" ∧ word ≠ "null" ∧ word ≠ "undefined" := by
      decide +kernel
    obtain ⟨hword, htrue, hfalse, hnull, hundefined⟩ := hall k k.mem_all word h
    simp [wordKind, htrue, hfalse, hnull, hundefined, hword]
  exact hkind ▸ readsAs_reserved hreserved

lemma wordKind_name {word : String} (h : word ∉ reserved) : wordKind word = .name word := by
  simp only [reserved, List.mem_append, List.mem_cons, List.not_mem_nil, or_false, not_or,
    List.mem_flatMap, not_exists, not_and] at h
  obtain ⟨⟨htrue, hfalse, hnull, hundefined⟩, hkeyword⟩ := h
  have hnone : Keyword.ofWord? word = none := by
    simpa [Keyword.ofWord?] using hkeyword
  simp [wordKind, htrue, hfalse, hnull, hundefined, hnone]

lemma readsAs_name {word : String} (h : IsName word) : ReadsAs (.name word) word.toList := by
  rw [← wordKind_name h.free]
  simpa using readsAs_word h.isWord

/-! ### Numbers -/

/-- At least one digit, and nothing else. -/
structure IsNumeral (digits : List Char) : Prop where
  ne_nil : digits ≠ []
  all : ∀ c ∈ digits, c.isDigit

instance : DecidablePred IsNumeral := fun digits =>
  decidable_of_iff (digits ≠ [] ∧ digits.all Char.isDigit)
    ⟨fun h => ⟨h.1, List.all_eq_true.mp h.2⟩, fun h => ⟨h.ne_nil, List.all_eq_true.mpr h.all⟩⟩

lemma isNumeral_naturalDigits (n : Nat) : IsNumeral (Decimal.naturalDigits n) :=
  ⟨Nat.toDigits_ne_nil, fun _ hc => Nat.isDigit_of_mem_toDigits (by decide) (by decide) hc⟩

lemma naturalOf_naturalDigits (n : Nat) :
    Decimal.naturalOf (Decimal.naturalDigits n) = n :=
  Nat.ofDigitChars_toDigits (by decide) (by decide)

lemma IsNumeral.exists_cons {digits : List Char} (h : IsNumeral digits) :
    ∃ d ds, digits = d :: ds ∧ d.isDigit := by
  obtain ⟨d, ds, rfl⟩ := List.exists_cons_of_ne_nil h.ne_nil
  exact ⟨d, ds, rfl, h.all d (by simp)⟩

lemma readsAs_number {d : Char} {cs : List Char} {kind : Token.Kind} (hd : d.isDigit)
    (h : ∀ rest, BlankAhead rest → ∀ p,
      ∃ q, readNumber (d :: cs ++ rest) p = .ok (kind, ⟨rest, q⟩)) :
    ReadsAs kind (d :: cs) := by
  have hopens : Opens d := .inr (.inl hd)
  have hquote : ¬ (d = '"' ∨ d = '\'') := by
    rintro (rfl | rfl) <;> revert hd <;> decide
  refine readsAs_cons hopens fun rest hrest p => ?_
  obtain ⟨q, hread⟩ := h rest hrest p
  refine ⟨q, ?_⟩
  rw [readToken, hopens.symbol?_eq_none]
  simpa only [hquote, if_false, hd, if_true, List.cons_append] using hread

lemma wholeKind_of_naturalOf {digits : List Char} {n : Int64}
    (h : (Decimal.naturalOf digits : Int) = n.toInt) :
    wholeKind digits = .ok (.literal (.int n)) := by
  have hlt : Decimal.naturalOf digits < twoTo 63 := by
    have := n.toInt_lt
    have htwo : (twoTo 63 : Int) = 2 ^ 63 := by decide
    omega
  have hvalue : Int64.ofNat (Decimal.naturalOf digits) = n := by
    rw [← Int64.ofInt_eq_ofNat, h, Int64.ofInt_toInt]
  simp [wholeKind, hlt, hvalue]

lemma readNumber_whole {digits rest : List Char} (hdigits : ∀ c ∈ digits, c.isDigit)
    (hend : ∀ c ∈ rest.head?, c.isDigit = false) (hpoint : ∀ tail, rest ≠ '.' :: tail)
    (p : Position) :
    readNumber (digits ++ rest) p = (wholeKind digits).map (·, ⟨rest, p.after digits⟩) := by
  rw [readNumber, takeWhile_upto hdigits hend, dropWhile_upto hdigits hend]
  split
  · exact absurd rfl (hpoint _)
  · rfl

lemma readsAs_int {digits : List Char} {n : Int64} (hdigits : IsNumeral digits)
    (hvalue : (Decimal.naturalOf digits : Int) = n.toInt) :
    ReadsAs (.literal (.int n)) digits := by
  obtain ⟨d, ds, rfl, hd⟩ := hdigits.exists_cons
  refine readsAs_number hd fun rest hrest p => ⟨p.after (d :: ds), ?_⟩
  have hend : ∀ c ∈ rest.head?, c.isDigit = false := fun c hc =>
    isDigit_eq_false_of_isBlank (hrest c hc)
  have hpoint : ∀ tail, rest ≠ '.' :: tail := fun _ => hrest.ne_cons rfl
  rw [readNumber_whole hdigits.all hend hpoint, wholeKind_of_naturalOf hvalue]
  rfl

lemma readMagnitude?_decimal {whole fraction : List Char} (hwhole : IsNumeral whole)
    (hfraction : IsNumeral fraction) :
    Decimal.readMagnitude? false (whole ++ '.' :: fraction)
      = some (Decimal.ofDecimal false (Decimal.naturalOf (whole ++ fraction))
        (-fraction.length)) := by
  have hpoint : ∀ c ∈ ('.' :: fraction).head?, c.isDigit = false := by simp
  have htake : fraction.takeWhile Char.isDigit = fraction :=
    List.takeWhile_eq_self_iff.mpr hfraction.all
  have hdrop : fraction.dropWhile Char.isDigit = [] :=
    List.dropWhile_eq_nil_iff.mpr hfraction.all
  simp [Decimal.readMagnitude?, takeWhile_upto hwhole.all hpoint,
    dropWhile_upto hwhole.all hpoint, htake, hdrop, hwhole.ne_nil, Decimal.readExponent?]

/-- A decimal is read as the number nearest to it. -/
lemma readFloat?_decimal {whole fraction : List Char} (hwhole : IsNumeral whole)
    (hfraction : IsNumeral fraction) :
    Decimal.readFloat? (whole ++ '.' :: fraction)
      = some (Decimal.ofDecimal false (Decimal.naturalOf (whole ++ fraction))
        (-fraction.length)) := by
  rw [← readMagnitude?_decimal hwhole hfraction]
  obtain ⟨d, ds, rfl, hd⟩ := hwhole.exists_cons
  obtain ⟨hminus, hplus, hn, hi⟩ :=
    of_toNat_mem (fun d => d ≠ '-' ∧ d ≠ '+' ∧ d.toLower ≠ 'n' ∧ d.toLower ≠ 'i') (by decide)
      (toNat_mem_digitCodes hd)
  simp [Decimal.readFloat?, Decimal.splitSign, hminus, hplus, hn, hi]

lemma readNumber_decimal {whole fraction rest : List Char} (hwhole : ∀ c ∈ whole, c.isDigit)
    (hfraction : IsNumeral fraction) (hend : ∀ c ∈ rest.head?, c.isDigit = false)
    (p : Position) :
    readNumber (whole ++ '.' :: fraction ++ rest) p
      = .ok (fractionKind whole fraction, ⟨rest, p.after (whole ++ '.' :: fraction)⟩) := by
  have hpoint : ∀ c ∈ ('.' :: (fraction ++ rest)).head?, c.isDigit = false := by simp
  have htake := takeWhile_upto hfraction.all hend
  have hdrop := dropWhile_upto hfraction.all hend
  obtain ⟨d, ds, rfl, hd⟩ := hfraction.exists_cons
  rw [Position.after_append, List.append_assoc, List.cons_append, readNumber,
    takeWhile_upto hwhole hpoint, dropWhile_upto hwhole hpoint]
  rw [List.cons_append] at htake hdrop
  simp only [List.cons_append, hd, if_true, htake, hdrop]
  rfl

lemma readsAs_float {whole fraction : List Char} {x : Float} (hwhole : IsNumeral whole)
    (hfraction : IsNumeral fraction)
    (hvalue : Decimal.readFloat? (whole ++ '.' :: fraction) = some x) :
    ReadsAs (.literal (.float x)) (whole ++ '.' :: fraction) := by
  have hkind : fractionKind whole fraction = .literal (.float x) := by
    rw [readFloat?_decimal hwhole hfraction, Option.some_inj] at hvalue
    rw [fractionKind, hvalue]
  rw [← hkind]
  obtain ⟨d, ds, rfl, hd⟩ := hwhole.exists_cons
  refine readsAs_number hd fun rest hrest p => ⟨_, readNumber_decimal hwhole.all hfraction ?_ p⟩
  exact fun c hc => isDigit_eq_false_of_isBlank (hrest c hc)

/-! ### Texts -/

/-- The letters after a backslash, with what they stand for. -/
def escapes : List (Char × Char) :=
  [('\\', '\\'), ('"', '"'), ('\'', '\''), ('n', '\n'), ('t', '\t'), ('r', '\r')]

/-- A text between quotes: a quote or backslash of it must be escaped, other
characters may be. -/
inductive QuotedAs (quote : Char) : List Char → List Char → Prop where
  | nil : QuotedAs quote [] []
  | plain (hquote : c ≠ quote) (hslash : c ≠ '\\') (h : QuotedAs quote value cs) :
    QuotedAs quote (c :: value) (c :: cs)
  | escaped (hmem : (d, c) ∈ escapes) (h : QuotedAs quote value cs) :
    QuotedAs quote (c :: value) ('\\' :: d :: cs)

lemma unescape_of_mem {c d : Char} (h : (d, c) ∈ escapes) : unescape d = [c] := by
  have hall : escapes.all fun e => unescape e.1 = [e.2] := by decide
  simpa using List.all_eq_true.mp hall _ h

lemma readText_quoted {quote : Char} {value cs : List Char} (hquote : quote ≠ '\\')
    (h : QuotedAs quote value cs) (rest out : List Char) (p : Position) :
    ∃ q, readText quote out (cs ++ quote :: rest) p
      = some (out.reverse ++ value, ⟨rest, q⟩) := by
  induction h generalizing out p with
  | nil =>
    refine ⟨p.advance quote, ?_⟩
    rw [List.nil_append, readText.eq_def]
    simp
  | @plain c value cs hq hslash _ ih =>
    obtain ⟨q, hread⟩ := ih (c :: out) (p.advance c)
    refine ⟨q, ?_⟩
    rw [List.cons_append, readText.eq_def]
    simpa [hq, hslash] using hread
  | @escaped d c value cs hmem _ ih =>
    obtain ⟨q, hread⟩ := ih ([c] ++ out) ((p.advance '\\').advance d)
    refine ⟨q, ?_⟩
    rw [List.cons_append, List.cons_append, readText]
    simpa [hquote.symm, unescape_of_mem hmem] using hread

lemma readsAs_text {quote : Char} {s : String} {cs : List Char}
    (hquote : quote = '"' ∨ quote = '\'') (h : QuotedAs quote s.toList cs) :
    ReadsAs (.literal (.text s)) (quote :: (cs ++ [quote])) := by
  have hopens : Opens quote := .inl hquote
  have hslash : quote ≠ '\\' := by obtain rfl | rfl := hquote <;> decide
  refine readsAs_cons hopens fun rest _ p => ?_
  obtain ⟨q, hread⟩ := readText_quoted hslash h rest [] (p.advance quote)
  refine ⟨q, ?_⟩
  rw [readToken, hopens.symbol?_eq_none]
  simp [hquote, hread]

/-- Escaping just the quote and the backslash. -/
def escapedFor (quote : Char) (value : List Char) : List Char :=
  value.flatMap fun c => if c = quote ∨ c = '\\' then ['\\', c] else [c]

lemma quotedAs_escapedFor {quote : Char} (hquote : quote = '"' ∨ quote = '\'')
    (value : List Char) : QuotedAs quote value (escapedFor quote value) := by
  induction value with
  | nil => exact .nil
  | cons c value ih =>
    rw [escapedFor, List.flatMap_cons]
    by_cases hc : c = quote ∨ c = '\\'
    · have hmem : (c, c) ∈ escapes := by
        obtain rfl | rfl := hc
        · obtain rfl | rfl := hquote <;> decide
        · decide
      rw [if_pos hc]
      exact .escaped hmem ih
    · rw [if_neg hc]
      exact .plain (fun h => hc (.inl h)) (fun h => hc (.inr h)) ih

/-! ### Tokens -/

/-- The ways to write a token. -/
inductive Spells : Token.Kind → List Char → Prop where
  | symbol (m : Symbol) : Spells (.symbol m) m.spelling
  | keyword (k : Keyword) (h : word ∈ k.spellings) : Spells (.keyword k) word.toList
  | null (h : word ∈ ["null", "undefined"]) : Spells (.literal .null) word.toList
  | bool (b : Bool) : Spells (.literal (.bool b)) (toString b).toList
  | int (hdigits : IsNumeral digits) (hvalue : (Decimal.naturalOf digits : Int) = n.toInt) :
    Spells (.literal (.int n)) digits
  | float (hwhole : IsNumeral whole) (hfraction : IsNumeral fraction)
      (hvalue : Decimal.readFloat? (whole ++ '.' :: fraction) = some x) :
    Spells (.literal (.float x)) (whole ++ '.' :: fraction)
  | text (hquote : quote = '"' ∨ quote = '\'') (h : QuotedAs quote s.toList cs) :
    Spells (.literal (.text s)) (quote :: (cs ++ [quote]))
  | name (h : IsName word) : Spells (.name word) word.toList

/-- However a token is written, it is read in full. -/
theorem Spells.readsAs {kind : Token.Kind} {cs : List Char} (h : Spells kind cs) :
    ReadsAs kind cs := by
  cases h with
  | symbol m => exact readsAs_symbol m
  | keyword k h => exact readsAs_keyword h
  | null h =>
    simp only [List.mem_cons, List.not_mem_nil, or_false] at h
    obtain rfl | rfl := h
    · exact readsAs_reserved (by decide)
    · exact readsAs_reserved (by decide)
  | bool b =>
    cases b with
    | true => exact readsAs_reserved (by decide : "true" ∈ reserved)
    | false => exact readsAs_reserved (by decide : "false" ∈ reserved)
  | int hdigits hvalue => exact readsAs_int hdigits hvalue
  | float hwhole hfraction hvalue => exact readsAs_float hwhole hfraction hvalue
  | text hquote h => exact readsAs_text hquote h
  | name h => exact readsAs_name h

/-- Which tokens can be written. -/
def Token.Kind.IsWritable : Token.Kind → Prop
  | .literal (.int n) => 0 ≤ n.toInt
  | .literal (.float x) => ∃ whole fraction, IsNumeral whole ∧ IsNumeral fraction ∧
      Decimal.readFloat? (whole ++ '.' :: fraction) = some x
  | .name word => IsName word
  | .endOfText => False
  | _ => True

theorem isWritable_iff {kind : Token.Kind} : kind.IsWritable ↔ ∃ cs, Spells kind cs := by
  constructor
  · intro h
    match kind, h with
    | .literal .null, _ => exact ⟨_, .null (List.mem_cons_self ..)⟩
    | .literal (.bool b), _ => exact ⟨_, .bool b⟩
    | .literal (.int n), h =>
      exact ⟨_, .int (isNumeral_naturalDigits n.toInt.toNat)
        (by rw [naturalOf_naturalDigits, Int.toNat_of_nonneg h])⟩
    | .literal (.float x), ⟨_, _, hwhole, hfraction, hvalue⟩ =>
      exact ⟨_, .float hwhole hfraction hvalue⟩
    | .literal (.text s), _ =>
      exact ⟨_, .text (.inl rfl) (quotedAs_escapedFor (.inl rfl) s.toList)⟩
    | .name word, h => exact ⟨_, .name h⟩
    | .keyword k, _ =>
      obtain ⟨word, hword⟩ : ∃ word, word ∈ k.spellings := by
        cases k <;> exact ⟨_, List.mem_cons_self ..⟩
      exact ⟨_, .keyword k hword⟩
    | .symbol m, _ => exact ⟨_, .symbol m⟩
  · rintro ⟨cs, h⟩
    cases h with
    | int _ hvalue =>
      show 0 ≤ Int64.toInt _
      rw [← hvalue]
      exact Int.natCast_nonneg _
    | float hwhole hfraction hvalue => exact ⟨_, _, hwhole, hfraction, hvalue⟩
    | name h => exact h
    | _ => trivial

end MockupStudio.Script
