/-
How a JSON text is gone through.

* `Json.Escapes`: the ways in which a character may stand inside quotes;
  `Json.readString_quoted`: a text in quotes is read back, whatever follows it;
* `Json.Takes`: some characters lead the reader from one place to another, which
  can be put together (`Takes.append`);
* `Json.ReadsAs`: characters that are read as a value; `readsAs_text`,
  `readsAs_array`, `readsAs_object`: the values that there are, with blanks between
  their parts;
* `Json.ReadsAs.read`: such characters alone are read as that value.
-/
import MockupStudio.Json.Reader
import MockupStudio.Json.Writer
import Mathlib

namespace MockupStudio.Json

/-! ### Texts in quotes -/

/-- Characters that stand for a character inside quotes. -/
inductive Escapes (c : Char) : List Char → Prop where
  | plain : ¬ c < ' ' → c ≠ '"' → c ≠ '\\' → Escapes c [c]
  | letter (e : Char) : simpleEscape? e = some c → Escapes c ['\\', e]
  | unit (n : Nat) (x y z w : Char) : hexUnit? x y z w = some n → single? n = some c →
      Escapes c ['\\', 'u', x, y, z, w]

/-- The characters of a text inside quotes. -/
def quoted (s : String) : List Char := s.toList.flatMap fun c => (writeChar c).toList

section Quotes

variable {c : Char} {cs ds rest : List Char} {out : String}

/-- A control character is written by its number. -/
lemma hexUnit_hexDigit {n : Nat} (h : n < 32) :
    hexUnit? '0' '0' (hexDigit (n / 16)) (hexDigit (n % 16)) = some n := by
  have hall : ∀ n < 32, hexUnit? '0' '0' (hexDigit (n / 16)) (hexDigit (n % 16)) = some n := by
    decide
  exact hall n h

lemma escapes_writeChar (c : Char) : Escapes c (writeChar c).toList := by
  rw [writeChar]
  by_cases hquote : c = '"'
  · subst hquote
    exact .letter '"' rfl
  by_cases hbackslash : c = '\\'
  · subst hbackslash
    exact .letter '\\' rfl
  rw [if_neg hquote, if_neg hbackslash]
  split
  · next h => exact h ▸ .letter 'b' rfl
  split
  · next h => exact h ▸ .letter 'f' rfl
  split
  · next h => exact h ▸ .letter 'n' rfl
  split
  · next h => exact h ▸ .letter 'r' rfl
  split
  · next h => exact h ▸ .letter 't' rfl
  split
  · next h =>
    have hlt : c.toNat < 32 := h
    have hsingle : single? c.toNat = some c := by
      rw [single?, if_neg (by omega), Char.ofNat_toNat]
    simpa using Escapes.unit _ _ _ _ _ (hexUnit_hexDigit hlt) hsingle
  · next h =>
    have hself : c.toString.toList = [c] := String.toList_singleton c
    exact hself ▸ .plain h hquote hbackslash

/-- The number of a character is no half of a pair. -/
lemma pair_of_single {n low : Nat} (h : single? n = some c) : pair? n low = none := by
  rw [single?] at h
  split at h
  · cases h
  · exact if_neg (by omega)

lemma readString_escapes (h : Escapes c ds) (cs : List Char) :
    readString? (some out) (ds ++ cs) = readString? (some (out.push c)) cs := by
  cases h with
  | plain hspace hquote hbackslash =>
    rw [List.singleton_append, readString?]
    · rw [if_neg (by simp [hspace, hbackslash])]
      rfl
    all_goals simp_all
  | letter e he =>
    have hu : e ≠ 'u' := by
      rintro rfl
      cases he
    rw [List.cons_append, List.singleton_append, readString?]
    · rw [he]
      rfl
    all_goals simp_all
  | unit n x y z w hunit hsingle =>
    by_cases hpair : ∃ e f g h rest, cs = '\\' :: 'u' :: e :: f :: g :: h :: rest
    · obtain ⟨e, f, g, h, rest, rfl⟩ := hpair
      have hnone : (hexUnit? e f g h).bind (pair? n) = none := by
        cases hexUnit? e f g h with
        | none => rfl
        | some low => exact pair_of_single hsingle
      simp only [List.cons_append, List.nil_append]
      rw [readString?, hunit]
      simp only [hnone, hsingle]
      rfl
    · simp only [List.cons_append, List.nil_append]
      rw [readString?]
      · rw [hunit]
        simp only [hsingle]
        rfl
      · exact fun e f g h rest heq => hpair ⟨e, f, g, h, rest, heq⟩

/-- A text in quotes is read back, whatever follows it. -/
lemma readString_quoted (s : String) (rest : List Char) :
    readString? (some "") (quoted s ++ '"' :: rest) = some (some s, rest) := by
  have hall (cs : List Char) (out : String) :
      readString? (some out) (cs.flatMap (fun c => (writeChar c).toList) ++ '"' :: rest)
        = some (some (out ++ String.ofList cs), rest) := by
    induction cs generalizing out with
    | nil =>
      rw [String.ofList_nil, String.append_empty]
      rfl
    | cons c cs ih =>
      have hout : out.push c ++ String.ofList cs = out ++ String.ofList (c :: cs) := by
        rw [← String.toList_inj]
        simp
      rw [List.flatMap_cons, List.append_assoc, readString_escapes (escapes_writeChar c), ih, hout]
  rw [quoted, hall, String.ofList_toList, String.empty_append]

lemma toList_writeString (s : String) : (writeString s).toList = '"' :: quoted s ++ ['"'] := by
  have hfold (cs : List Char) (out : String) :
      (cs.foldl (fun out c => out ++ writeChar c) out).toList
        = out.toList ++ cs.flatMap fun c => (writeChar c).toList := by
    induction cs generalizing out with
    | nil => simp
    | cons c cs ih => rw [List.foldl_cons, ih, String.toList_append, List.flatMap_cons,
        List.append_assoc]
  rw [writeString, String.foldl_eq_foldl_toList, String.toList_append, hfold]
  rfl

end Quotes

/-! ### Steps of the reader -/

lemma dropWhile_quote (cs : List Char) : ('"' :: cs).dropWhile isSpace = '"' :: cs := rfl

/-- Characters that may stand between the parts of a text. -/
def Blank (cs : List Char) : Prop := ∀ c ∈ cs, isSpace c

/-- What the reader has come to: the brackets that are open, and what it expects. -/
abbrev Place := List Open × Expecting

/-- Some characters lead the reader from one place to another, in no more steps than there
are characters, whatever follows them. -/
def Takes (before : Place) (cs : List Char) (after : Place) : Prop :=
  ∃ k ≤ cs.length, ∀ steps rest,
    readSteps (steps + k) before.1 before.2 (cs ++ rest) = readSteps steps after.1 after.2 rest

section Steps

variable {before between after : Place} {stack : List Open} {cs ds : List Char} {c : Char}
  {w : Written} {done : List Written} {members : List (Option String × Written)}
  {key : Option String} {mayClose : Bool}

lemma Takes.append (h : Takes before cs between) (h' : Takes between ds after) :
    Takes before (cs ++ ds) after := by
  obtain ⟨k, hk, hcs⟩ := h
  obtain ⟨l, hl, hds⟩ := h'
  refine ⟨l + k, ?_, fun steps rest => ?_⟩
  · rw [List.length_append]
    omega
  · rw [List.append_assoc, ← Nat.add_assoc, hcs, hds]

lemma takes_blank (h : Blank cs) (place : Place) : Takes place cs place := by
  refine ⟨0, Nat.zero_le _, fun steps rest => ?_⟩
  cases steps with
  | zero => rfl
  | succ steps =>
    have hdrop : (cs ++ rest).dropWhile isSpace = rest.dropWhile isSpace :=
      List.dropWhile_append_of_pos h
    rw [Nat.add_zero, readSteps.eq_def, readSteps.eq_def (steps + 1) _ _ rest]
    simp only [hdrop]

/-- A character that the reader takes in one step. -/
lemma takes_of_step (h : ∀ steps rest,
    readSteps (steps + 1) before.1 before.2 (c :: rest) = readSteps steps after.1 after.2 rest) :
    Takes before [c] after :=
  ⟨1, Nat.le_refl 1, h⟩

lemma takes_openArray :
    Takes (stack, .value mayClose) ['['] (.array [] :: stack, .value true) := by
  cases mayClose <;> exact takes_of_step fun _ _ => rfl

lemma takes_emptyArray :
    Takes (.array done :: stack, .value true) [']'] (stack, .more (.array done.reverse)) :=
  takes_of_step fun _ _ => rfl

lemma takes_nextItem :
    Takes (.array done :: stack, .more w) [','] (.array (w :: done) :: stack, .value false) :=
  takes_of_step fun _ _ => rfl

lemma takes_closeArray :
    Takes (.array done :: stack, .more w) [']'] (stack, .more (.array (w :: done).reverse)) :=
  takes_of_step fun _ _ => rfl

lemma takes_openObject :
    Takes (stack, .value mayClose) ['\x7b'] (stack, .key [] true) := by
  cases mayClose <;> exact takes_of_step fun _ _ => rfl

lemma takes_emptyObject :
    Takes (stack, .key members true) ['\x7d'] (stack, .more (.object members.reverse)) :=
  takes_of_step fun _ _ => rfl

lemma takes_nextMember : Takes (.object members key :: stack, .more w) [',']
    (stack, .key ((key, w) :: members) false) :=
  takes_of_step fun _ _ => rfl

lemma takes_closeObject : Takes (.object members key :: stack, .more w) ['\x7d']
    (stack, .more (.object ((key, w) :: members).reverse)) :=
  takes_of_step fun _ _ => rfl

/-- A key is taken with its colon. -/
lemma takes_key (key : String) : Takes (stack, .key members mayClose)
    ((writeString key).toList ++ [':']) (.object members (some key) :: stack, .value false) := by
  refine ⟨1, by simp, fun steps rest => ?_⟩
  have hcs : (writeString key).toList ++ [':'] ++ rest
      = '"' :: (quoted key ++ '"' :: ':' :: rest) := by
    rw [toList_writeString]
    simp
  have hkey : readKey? ('"' :: (quoted key ++ '"' :: ':' :: rest)) = some (some key, rest) := by
    rw [readKey?, readString_quoted]
    rfl
  rw [hcs]
  cases mayClose <;> simp [readSteps, dropWhile_quote, hkey]

end Steps

/-! ### Values -/

/-- Characters that are read as a value. -/
def ReadsAs (cs : List Char) (w : Written) : Prop :=
  ∀ stack mayClose, Takes (stack, .value mayClose) cs (stack, .more w)

section Values

variable {cs gap close : List Char} {w : Written}

/-- Characters that are read as a value are read as that value alone. -/
theorem ReadsAs.read {s : String} (h : ReadsAs s.toList w) : read? s = some w := by
  obtain ⟨k, hk, hread⟩ := h [] false
  obtain ⟨steps, hsteps⟩ : ∃ steps, s.toList.length + 2 = steps + 1 + k :=
    ⟨s.toList.length + 1 - k, by omega⟩
  have hwhole := hread (steps + 1) []
  rw [List.append_nil] at hwhole
  rw [read?, hsteps, hwhole]
  rfl

lemma readsAs_text (s : String) : ReadsAs (writeString s).toList (.text (some s)) := by
  intro stack mayClose
  refine ⟨1, by rw [toList_writeString]; simp, fun steps rest => ?_⟩
  have hcs : (writeString s).toList ++ rest = '"' :: (quoted s ++ '"' :: rest) := by
    rw [toList_writeString]
    simp
  have hscalar : readScalar? ('"' :: (quoted s ++ '"' :: rest)) = some (.text (some s), rest) := by
    rw [readScalar?, readString_quoted]
    rfl
  rw [hcs]
  cases mayClose <;> simp [readSteps, dropWhile_quote, hscalar]

/-- The items of an array after the first, each behind a comma and a gap. -/
def laterItems (gap : List Char) (items : List (List Char)) : List Char :=
  items.flatMap fun item => ',' :: (gap ++ item)

/-- An array with gaps in front of its items and of its end. -/
def arrayText (gap close : List Char) : List (List Char) → List Char
  | [] => ['[', ']']
  | item :: items => '[' :: (gap ++ (item ++ (laterItems gap items ++ (close ++ [']']))))

/-- What comes after an item leads to the whole array. -/
lemma takes_laterItems (hgap : Blank gap) (hclose : Blank close) {items : List (List Char)}
    {ws : List Written} (h : List.Forall₂ ReadsAs items ws) (stack : List Open)
    (done : List Written) (w : Written) :
    Takes (.array done :: stack, .more w) (laterItems gap items ++ (close ++ [']']))
      (stack, .more (.array (done.reverse ++ w :: ws))) := by
  induction h generalizing done w with
  | nil =>
    rw [← List.reverse_cons]
    exact (takes_blank hclose _).append takes_closeArray
  | @cons item v items ws hitem _ ih =>
    have htext : laterItems gap (item :: items) ++ (close ++ [']'])
        = [','] ++ (gap ++ item) ++ (laterItems gap items ++ (close ++ [']'])) := by
      simp [laterItems]
    have hwhole : done.reverse ++ w :: v :: ws = (w :: done).reverse ++ v :: ws := by simp
    rw [htext, hwhole]
    exact (takes_nextItem.append ((takes_blank hgap _).append (hitem _ false))).append
      (ih (w :: done) v)

lemma readsAs_array (hgap : Blank gap) (hclose : Blank close) {items : List (List Char)}
    {ws : List Written} (h : List.Forall₂ ReadsAs items ws) :
    ReadsAs (arrayText gap close items) (.array ws) := by
  intro stack mayClose
  cases h with
  | nil => exact takes_openArray.append takes_emptyArray
  | @cons item w items ws hitem hitems =>
    exact takes_openArray.append ((takes_blank hgap _).append ((hitem _ true).append
      (takes_laterItems hgap hclose hitems stack [] w)))

/-- A key, a colon, some space and a value. -/
def memberText (space : List Char) (member : String × List Char) : List Char :=
  (writeString member.1).toList ++ [':'] ++ (space ++ member.2)

/-- The members of an object after the first, each behind a comma and a gap. -/
def laterMembers (gap space : List Char) (members : List (String × List Char)) : List Char :=
  members.flatMap fun member => ',' :: (gap ++ memberText space member)

/-- An object with gaps in front of its members and of its end. -/
def objectText (gap close space : List Char) : List (String × List Char) → List Char
  | [] => ['\x7b', '\x7d']
  | member :: members => '\x7b' :: (gap ++ (memberText space member
      ++ (laterMembers gap space members ++ (close ++ ['\x7d']))))

/-- A key with characters that are read as its value. -/
def MemberReadsAs (member : String × List Char) (w : Option String × Written) : Prop :=
  w.1 = some member.1 ∧ ReadsAs member.2 w.2

lemma takes_member {space : List Char} (hspace : Blank space) {member : String × List Char}
    {w : Option String × Written} (h : MemberReadsAs member w) (stack : List Open)
    (done : List (Option String × Written)) (mayClose : Bool) :
    Takes (stack, .key done mayClose) (memberText space member)
      (.object done w.1 :: stack, .more w.2) := by
  obtain ⟨hkey, hvalue⟩ := h
  rw [hkey]
  exact (takes_key member.1).append ((takes_blank hspace _).append (hvalue _ false))

/-- What comes after a member leads to the whole object. -/
lemma takes_laterMembers {space : List Char} (hgap : Blank gap) (hclose : Blank close)
    (hspace : Blank space) {members : List (String × List Char)}
    {ws : List (Option String × Written)} (h : List.Forall₂ MemberReadsAs members ws)
    (stack : List Open) (done : List (Option String × Written)) (w : Option String × Written) :
    Takes (.object done w.1 :: stack, .more w.2)
      (laterMembers gap space members ++ (close ++ ['\x7d']))
      (stack, .more (.object (done.reverse ++ w :: ws))) := by
  induction h generalizing done w with
  | nil =>
    rw [← List.reverse_cons]
    exact (takes_blank hclose _).append takes_closeObject
  | @cons member v members ws hmember _ ih =>
    have htext : laterMembers gap space (member :: members) ++ (close ++ ['\x7d'])
        = [','] ++ (gap ++ memberText space member)
          ++ (laterMembers gap space members ++ (close ++ ['\x7d'])) := by
      simp [laterMembers]
    have hwhole : done.reverse ++ w :: v :: ws = (w :: done).reverse ++ v :: ws := by simp
    rw [htext, hwhole]
    exact (takes_nextMember.append ((takes_blank hgap _).append
      (takes_member hspace hmember _ _ false))).append (ih (w :: done) v)

lemma readsAs_object {space : List Char} (hgap : Blank gap) (hclose : Blank close)
    (hspace : Blank space) {members : List (String × List Char)}
    {ws : List (Option String × Written)} (h : List.Forall₂ MemberReadsAs members ws) :
    ReadsAs (objectText gap close space members) (.object ws) := by
  intro stack mayClose
  cases h with
  | nil => exact takes_openObject.append takes_emptyObject
  | @cons member w members ws hmember hmembers =>
    exact takes_openObject.append ((takes_blank hgap _).append
      ((takes_member hspace hmember _ _ true).append
        (takes_laterMembers hgap hclose hspace hmembers stack [] w)))

end Values

end MockupStudio.Json
