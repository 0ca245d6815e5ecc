/-
From script text to tokens.

The lexer works on the characters that are left together with the position
of the first of them (`Cursor`), so a position is always the one reached
from the start of the text by `Position.advance`.

* `skipGap`: blanks, line comments and block comments;
* `readToken`: one token, the longest that its first character allows;
* `skipGap_length`, `readToken_length`: neither gives back more than it got,
  so `tokensFrom` ends;
* `tokenize`: all tokens of a text, the end of the text last.
-/
import MockupStudio.Decimal.Numeral
import MockupStudio.Script.Token
import MockupStudio.Text.Blank
import MockupStudio.Text.Letter

namespace MockupStudio.Script

/-- The position after a character. -/
def Position.advance (p : Position) (c : Char) : Position :=
  if c = '\n' then ⟨p.line + 1, 1⟩ else ⟨p.line, p.column + 1⟩

/-- The position after several characters. -/
def Position.after (p : Position) (cs : List Char) : Position := cs.foldl Position.advance p

/-- The characters left, and the position of the first. -/
structure Cursor where
  rest : List Char
  position : Position

/-- Why a text has no tokens. -/
inductive LexError.Cause where
  | unexpected (c : Char)
  | unterminatedComment
  | unterminatedText
  | numberTooLarge (digits : List Char)
  deriving Repr, DecidableEq

/-- A failure to read a token, at the first character of the offender. -/
structure LexError where
  cause : LexError.Cause
  position : Position
  deriving Repr, DecidableEq

/-- The wording of a cause. -/
def LexError.Cause.message : LexError.Cause → String
  | unexpected c => "Unexpected character '" ++ c.toString ++ "'"
  | unterminatedComment => "Unterminated block comment"
  | unterminatedText => "Unterminated string"
  | numberTooLarge digits => "Invalid number: " ++ String.ofList digits

/-- The wording of a failure, with its position. -/
def LexError.message (e : LexError) : String :=
  e.cause.message ++ " at " ++ toString e.position.line ++ ":" ++ toString e.position.column

/-! ### Gaps between tokens -/

/-- Where in a gap the lexer is. -/
inductive GapState where
  | between
  | lineComment
  /-- In a block comment that was opened at a position. -/
  | blockComment (start : Position)

/-- Skips blanks and comments; fails with the start of an open comment. -/
def skipGap : GapState → List Char → Position → Except Position Cursor
  | .between, '/' :: '/' :: cs, p =>
    skipGap .lineComment cs ((p.advance '/').advance '/')
  | .between, '/' :: '*' :: cs, p =>
    skipGap (.blockComment p) cs ((p.advance '/').advance '*')
  | .between, c :: cs, p =>
    if Text.isBlank c then skipGap .between cs (p.advance c) else .ok ⟨c :: cs, p⟩
  | .lineComment, c :: cs, p =>
    if c = '\n' then skipGap .between cs (p.advance c)
    else skipGap .lineComment cs (p.advance c)
  | .blockComment _, '*' :: '/' :: cs, p =>
    skipGap .between cs ((p.advance '*').advance '/')
  | .blockComment start, c :: cs, p => skipGap (.blockComment start) cs (p.advance c)
  | .blockComment start, [], _ => .error start
  | .between, [], p => .ok ⟨[], p⟩
  | .lineComment, [], p => .ok ⟨[], p⟩

/-! ### Tokens -/

/-- The longest symbol at the front of a text. -/
def symbol? : List Char → Option Symbol
  | '=' :: '=' :: _ => some .equal
  | '!' :: '=' :: _ => some .unequal
  | '<' :: '=' :: _ => some .lessEqual
  | '>' :: '=' :: _ => some .greaterEqual
  | '|' :: '|' :: _ => some .either
  | '&' :: '&' :: _ => some .both
  | '=' :: _ => some .assign
  | '!' :: _ => some .bang
  | '<' :: _ => some .less
  | '>' :: _ => some .greater
  | '|' :: _ => some .pipe
  | '(' :: _ => some .leftParen
  | ')' :: _ => some .rightParen
  | '\x7b' :: _ => some .leftBrace
  | '\x7d' :: _ => some .rightBrace
  | '[' :: _ => some .leftBracket
  | ']' :: _ => some .rightBracket
  | ',' :: _ => some .comma
  | ';' :: _ => some .semicolon
  | ':' :: _ => some .colon
  | '.' :: _ => some .dot
  | '+' :: _ => some .plus
  | '-' :: _ => some .minus
  | '*' :: _ => some .star
  | '/' :: _ => some .slash
  | '%' :: _ => some .percent
  | _ => none

/-- What a letter after a backslash stands for; any other keeps its backslash. -/
def unescape (c : Char) : List Char :=
  match c with
  | 'n' => ['\n']
  | 't' => ['\t']
  | 'r' => ['\r']
  | '\\' => ['\\']
  | '"' => ['"']
  | '\'' => ['\'']
  | c => ['\\', c]

/-- The rest of a quoted text; `out` is what it holds so far, in reverse. -/
def readText (quote : Char) (out : List Char) : List Char → Position →
    Option (List Char × Cursor)
  | [], _ => none
  | c :: cs, p =>
    if c = quote then some (out.reverse, ⟨cs, p.advance c⟩)
    else if c = '\\' then
      match cs with
      | [] => none
      | d :: cs =>
        readText quote ((unescape d).reverse ++ out) cs ((p.advance c).advance d)
    else readText quote (c :: out) cs (p.advance c)

/-- Whether a name may begin with a character. -/
def isNameStart (c : Char) : Bool := Text.isLetter c || c = '_' || c = '$'

/-- Whether a name may go on with a character. -/
def isNamePart (c : Char) : Bool :=
  Text.isLetter c || Text.isNumeric c || c = '_' || c = '$'

/-- The keyword that a word is a spelling of. -/
def Keyword.ofWord? (word : String) : Option Keyword :=
  Keyword.all.find? fun k => k.spellings.contains word

/-- The kind of a word: a constant, a keyword or a name. -/
def wordKind (word : String) : Token.Kind :=
  if word = "true" then .literal (.bool true)
  else if word = "false" then .literal (.bool false)
  else if word = "null" ∨ word = "undefined" then .literal .null
  else match Keyword.ofWord? word with
    | some k => .keyword k
    | none => .name word

/-- The value of a whole number, within 64 bits. -/
def wholeKind (digits : List Char) : Except LexError.Cause Token.Kind :=
  let n := Decimal.naturalOf digits
  if n < twoTo 63 then .ok (.literal (.int (Int64.ofNat n)))
  else .error (.numberTooLarge digits)

/-- The value of a number with a point. -/
def fractionKind (whole fraction : List Char) : Token.Kind :=
  .literal (.float (Decimal.ofDecimal false (Decimal.naturalOf (whole ++ fraction))
    (-fraction.length)))

/-- A number; a point belongs to it only if a digit follows. -/
def readNumber (cs : List Char) (p : Position) :
    Except LexError.Cause (Token.Kind × Cursor) :=
  let whole := cs.takeWhile Char.isDigit
  match cs.dropWhile Char.isDigit with
  | '.' :: d :: rest =>
    if d.isDigit then
      let fraction := (d :: rest).takeWhile Char.isDigit
      .ok (fractionKind whole fraction,
        ⟨(d :: rest).dropWhile Char.isDigit, ((p.after whole).advance '.').after fraction⟩)
    else (wholeKind whole).map (·, ⟨'.' :: d :: rest, p.after whole⟩)
  | rest => (wholeKind whole).map (·, ⟨rest, p.after whole⟩)

/-- The token that starts with character `c`. -/
def readToken (c : Char) (cs : List Char) (p : Position) :
    Except LexError.Cause (Token.Kind × Cursor) :=
  match symbol? (c :: cs) with
  | some m =>
    let used := m.spelling.length
    .ok (.symbol m, ⟨(c :: cs).drop used, ⟨p.line, p.column + used⟩⟩)
  | none =>
    if c = '"' ∨ c = '\'' then
      match readText c [] cs (p.advance c) with
      | some (value, next) => .ok (.literal (.text (String.ofList value)), next)
      | none => .error .unterminatedText
    else if c.isDigit then readNumber (c :: cs) p
    else if isNameStart c then
      let more := cs.takeWhile isNamePart
      .ok (wordKind (String.ofList (c :: more)),
        ⟨cs.dropWhile isNamePart, (p.advance c).after more⟩)
    else .error (.unexpected c)

/-! ### Every token takes a character -/

theorem skipGap_length {state : GapState} {cs : List Char} {p : Position} {next : Cursor}
    (h : skipGap state cs p = .ok next) : next.rest.length ≤ cs.length := by
  fun_induction skipGap state cs p with
  | case1 cs p ih => have := ih h; simp only [List.length_cons]; omega
  | case2 cs p ih => have := ih h; simp only [List.length_cons]; omega
  | case3 c cs p _ _ _ ih => have := ih h; simp only [List.length_cons]; omega
  | case4 => cases h; simp
  | case5 cs p ih => have := ih h; simp only [List.length_cons]; omega
  | case6 c cs p _ ih => have := ih h; simp only [List.length_cons]; omega
  | case7 _ cs p ih => have := ih h; simp only [List.length_cons]; omega
  | case8 _ c cs p _ ih => have := ih h; simp only [List.length_cons]; omega
  | case9 => cases h
  | case10 => cases h; simp
  | case11 => cases h; simp

theorem readText_length {quote : Char} {out cs value : List Char} {p : Position}
    {next : Cursor} (h : readText quote out cs p = some (value, next)) :
    next.rest.length < cs.length := by
  fun_induction readText quote out cs p with
  | case1 => cases h
  | case2 => cases h; simp
  | case3 => cases h
  | case4 _ _ _ _ _ ih => have := ih h; simp only [List.length_cons]; omega
  | case5 _ _ _ _ _ _ ih => have := ih h; simp only [List.length_cons]; omega

theorem length_dropWhile_le (p : α → Bool) (cs : List α) :
    (cs.dropWhile p).length ≤ cs.length :=
  (List.dropWhile_sublist p).length_le

theorem readNumber_length {c : Char} {cs : List Char} {p : Position} {kind : Token.Kind}
    {next : Cursor} (hc : c.isDigit) (h : readNumber (c :: cs) p = .ok (kind, next)) :
    next.rest.length ≤ cs.length := by
  have hs := length_dropWhile_le Char.isDigit cs
  unfold readNumber at h
  rw [List.dropWhile_cons_of_pos hc] at h
  split at h
  · next d rest hrest =>
    rw [hrest] at hs
    split at h
    · have := length_dropWhile_le Char.isDigit (d :: rest)
      cases h
      simp only [List.length_cons] at *
      omega
    · cases hw : wholeKind ((c :: cs).takeWhile Char.isDigit) <;>
        simp only [hw, Except.map, reduceCtorEq, Except.ok.injEq, Prod.mk.injEq] at h
      obtain ⟨_, rfl⟩ := h
      exact hs
  · cases hw : wholeKind ((c :: cs).takeWhile Char.isDigit) <;>
      simp only [hw, Except.map, reduceCtorEq, Except.ok.injEq, Prod.mk.injEq] at h
    obtain ⟨_, rfl⟩ := h
    exact hs

theorem readToken_length {c : Char} {cs : List Char} {p : Position} {kind : Token.Kind}
    {next : Cursor} (h : readToken c cs p = .ok (kind, next)) :
    next.rest.length ≤ cs.length := by
  unfold readToken at h
  split at h
  · next m _ =>
    cases h
    cases m <;> simp [Symbol.spelling]
  · split at h
    · split at h
      · next hr => cases h; exact Nat.le_of_lt (readText_length hr)
      · cases h
    · split at h
      · next hd => exact readNumber_length hd h
      · split at h
        · cases h; exact length_dropWhile_le isNamePart cs
        · cases h

/-! ### All tokens of a text -/

/-- The tokens from a cursor on; `done` are those before it, in reverse. -/
def tokensFrom (done : List Token) (cursor : Cursor) : Except LexError (List Token) :=
  match _hg : skipGap .between cursor.rest cursor.position with
  | .error start => .error ⟨.unterminatedComment, start⟩
  | .ok ⟨[], p⟩ => .ok (⟨.endOfText, p⟩ :: done).reverse
  | .ok ⟨c :: cs, p⟩ =>
    match _ht : readToken c cs p with
    | .error cause => .error ⟨cause, p⟩
    | .ok (kind, next) => tokensFrom (⟨kind, p⟩ :: done) next
termination_by cursor.rest.length
decreasing_by
  have := skipGap_length _hg
  have := readToken_length _ht
  simp only [List.length_cons] at *
  omega

/-- The tokens of a text, the end of the text last. -/
def tokenize (source : List Char) : Except LexError (List Token) :=
  tokensFrom [] ⟨source, ⟨1, 1⟩⟩

end MockupStudio.Script
