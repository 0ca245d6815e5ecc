/-
What a bundle says of a mockup.

* `Text.fill_eq_self_iff`: a text is left as it is just when it has no place to
  fill, or its places are filled with the marker itself;
* `Text.unescaped`: a text read back from a page; no mark-up comes of a text
  that is escaped, and it reads back (`Text.unescaped_escaped`);
* `Bundle.page_eq`, `Bundle.readme_eq`: page and description in their pieces;
* `Bundle.page_eq_iff`: a name that has the place of the markup in it is shown
  with the markup in its own place;
* `Bundle.files_eq`: what the files of a bundle hold.
-/
import MockupStudio.Preview.Bundle
import Mathlib.Data.List.Infix
import Mathlib.Tactic.Lemma

namespace MockupStudio

namespace Text

/-! ### Places that are filled -/

section Filling

variable {marker filling xs ys : List Char}

lemma fillFrom_drop (n : Nat) (xs : List Char) :
    fillFrom marker filling n xs = fillFrom marker filling 0 (xs.drop n) := by
  induction xs generalizing n with
  | nil => rw [List.drop_nil, fillFrom, fillFrom]
  | cons x xs ih =>
    cases n with
    | zero => rfl
    | succ n => exact ih n

/-- A marker at the start is replaced. -/
lemma fillFrom_marker_append (hmarker : marker ≠ []) (ys : List Char) :
    fillFrom marker filling 0 (marker ++ ys) = filling ++ fillFrom marker filling 0 ys := by
  obtain ⟨c, cs, rfl⟩ := List.exists_cons_of_ne_nil hmarker
  rw [List.cons_append, fillFrom, if_pos (by simp), fillFrom_drop]
  simp

lemma fillFrom_cons_of_no_start {c : Char} (h : ¬ marker <+: c :: xs) :
    fillFrom marker filling 0 (c :: xs) = c :: fillFrom marker filling 0 xs := by
  rw [fillFrom, if_neg (mt List.isPrefixOf_iff_prefix.mp h)]

/-- The way a text is gone through: a marker at the start is passed as a whole,
any other character on its own. -/
@[elab_as_elim]
lemma scan {motive : List Char → Prop} (hmarker : marker ≠ []) (nil : motive [])
    (found : ∀ rest, motive rest → motive (marker ++ rest))
    (next : ∀ x rest, ¬ marker <+: x :: rest → motive rest → motive (x :: rest))
    (xs : List Char) : motive xs := by
  induction hn : xs.length using Nat.strong_induction_on generalizing xs with
  | _ n ih =>
  subst hn
  by_cases hstarts : marker <+: xs
  · obtain ⟨rest, rfl⟩ := hstarts
    have hpos := List.length_pos_iff.mpr hmarker
    exact found rest (ih rest.length (by rw [List.length_append]; omega) rest rfl)
  · cases xs with
    | nil => exact nil
    | cons x rest => exact next x rest hstarts (ih rest.length (by simp) rest rfl)

/-- What is not the start of a marker is left as it is. -/
lemma fillFrom_append_of_notMem {c : Char} {cs : List Char} (h : c ∉ xs) (ys : List Char) :
    fillFrom (c :: cs) filling 0 (xs ++ ys) = xs ++ fillFrom (c :: cs) filling 0 ys := by
  induction xs with
  | nil => rfl
  | cons x xs ih =>
    rw [List.mem_cons, not_or] at h
    rw [List.cons_append, fillFrom_cons_of_no_start fun hstarts => h.1 ?_, ih h.2,
      List.cons_append]
    exact (List.cons_prefix_cons.mp hstarts).1

/-- No marker goes on over a character that it does not have. -/
lemma prefix_append_cons_iff {c : Char} (h : c ∉ marker) (xs ys : List Char) :
    marker <+: xs ++ c :: ys ↔ marker <+: xs := by
  refine ⟨fun hstarts => ?_, fun hstarts => hstarts.trans (List.prefix_append xs _)⟩
  induction xs generalizing marker with
  | nil =>
    cases marker with
    | nil => exact List.nil_prefix
    | cons m ms =>
      obtain ⟨rfl, -⟩ := List.cons_prefix_cons.mp hstarts
      exact absurd List.mem_cons_self h
  | cons x xs ih =>
    cases marker with
    | nil => exact List.nil_prefix
    | cons m ms =>
      rw [List.mem_cons, not_or] at h
      obtain ⟨rfl, hrest⟩ := List.cons_prefix_cons.mp hstarts
      exact List.cons_prefix_cons.mpr ⟨rfl, ih h.2 hrest⟩

/-- Both sides of such a character are filled by themselves. -/
lemma fillFrom_append_cons {c : Char} (h : c ∉ marker) (hmarker : marker ≠ [])
    (xs ys : List Char) : fillFrom marker filling 0 (xs ++ c :: ys)
      = fillFrom marker filling 0 xs ++ c :: fillFrom marker filling 0 ys := by
  induction xs using scan hmarker with
  | nil =>
    have hc : ¬ marker <+: c :: ys := fun hstarts => hmarker
      (List.prefix_nil.mp ((prefix_append_cons_iff h [] ys).mp hstarts))
    rw [List.nil_append, fillFrom_cons_of_no_start hc, fillFrom, List.nil_append]
  | found rest ih =>
    rw [List.append_assoc, fillFrom_marker_append hmarker, fillFrom_marker_append hmarker, ih,
      List.append_assoc]
  | next x rest hstarts ih =>
    have hc : ¬ marker <+: x :: (rest ++ c :: ys) := fun hc =>
      hstarts ((prefix_append_cons_iff h (x :: rest) ys).mp hc)
    rw [List.cons_append, fillFrom_cons_of_no_start hc, fillFrom_cons_of_no_start hstarts, ih,
      List.cons_append]

/-- A text without a marker is left as it is. -/
lemma fillFrom_of_unmarked (h : ¬ marker <:+: xs) : fillFrom marker filling 0 xs = xs := by
  induction xs with
  | nil => rw [fillFrom]
  | cons x xs ih =>
    rw [List.infix_cons_iff, not_or] at h
    rw [fillFrom_cons_of_no_start h.1, ih h.2]

/-- Each marker makes a text longer by what the filling has more. -/
lemma length_fillFrom (hmarker : marker ≠ []) (filling xs : List Char) : ∃ k,
    (fillFrom marker filling 0 xs).length + k * marker.length = xs.length + k * filling.length
      ∧ (marker <:+: xs → 0 < k) := by
  induction xs using scan hmarker with
  | nil => exact ⟨0, by simp [fillFrom], fun hmarked => absurd (List.infix_nil.mp hmarked) hmarker⟩
  | found rest ih =>
    obtain ⟨k, hk, -⟩ := ih
    refine ⟨k + 1, ?_, fun _ => k.succ_pos⟩
    rw [fillFrom_marker_append hmarker, List.length_append, List.length_append, Nat.succ_mul,
      Nat.succ_mul]
    omega
  | next x rest hstarts ih =>
    obtain ⟨k, hk, hpos⟩ := ih
    refine ⟨k, ?_, fun hmarked => hpos ((List.infix_cons_iff.mp hmarked).resolve_left hstarts)⟩
    rw [fillFrom_cons_of_no_start hstarts, List.length_cons, List.length_cons]
    omega

/-- Where something was filled in and the text is the same, it was the marker. -/
lemma eq_of_fillFrom_eq_self (hmarker : marker ≠ []) (hmarked : marker <:+: xs)
    (h : fillFrom marker filling 0 xs = xs) : filling = marker := by
  have hlength : filling.length = marker.length := by
    obtain ⟨k, hk, hpos⟩ := length_fillFrom hmarker filling xs
    rw [h] at hk
    exact (Nat.eq_of_mul_eq_mul_left (hpos hmarked) (Nat.add_left_cancel hk)).symm
  induction xs using scan hmarker with
  | nil => exact absurd (List.infix_nil.mp hmarked) hmarker
  | found rest ih =>
    rw [fillFrom_marker_append hmarker] at h
    exact List.append_inj_left h hlength
  | next x rest hstarts ih =>
    rw [fillFrom_cons_of_no_start hstarts] at h
    exact ih ((List.infix_cons_iff.mp hmarked).resolve_left hstarts) (List.cons.inj h).2

/-- No marker starts in what does not have its first character. -/
lemma infix_append_iff_of_notMem {c : Char} {cs : List Char} (h : c ∉ xs) (ys : List Char) :
    c :: cs <:+: xs ++ ys ↔ c :: cs <:+: ys := by
  induction xs with
  | nil => rfl
  | cons x xs ih =>
    rw [List.mem_cons, not_or] at h
    rw [List.cons_append, List.infix_cons_iff, List.cons_prefix_cons, ih h.2]
    simp [h.1]

/-- The only place of a text is filled. -/
lemma fillFrom_place {c : Char} {cs : List Char} (hbefore : c ∉ xs) (hafter : ¬ c :: cs <:+: ys) :
    fillFrom (c :: cs) filling 0 (xs ++ (c :: cs ++ ys)) = xs ++ (filling ++ ys) := by
  rw [fillFrom_append_of_notMem hbefore, fillFrom_marker_append (List.cons_ne_nil c cs),
    fillFrom_of_unmarked hafter]

lemma fillFrom_self (hmarker : marker ≠ []) (xs : List Char) :
    fillFrom marker marker 0 xs = xs := by
  induction xs using scan hmarker with
  | nil => rw [fillFrom]
  | found rest ih => rw [fillFrom_marker_append hmarker, ih]
  | next x rest hstarts ih => rw [fillFrom_cons_of_no_start hstarts, ih]

end Filling

/-- A text is left as it is just when it has no place to fill, or its places
are filled with the marker itself. -/
lemma fill_eq_self_iff {marker : String} (hmarker : marker.toList ≠ []) (filling text : String) :
    fill marker filling text = text
      ↔ (marker.toList <:+: text.toList → filling = marker) := by
  rw [fill, ← String.toList_inj, String.toList_ofList]
  constructor
  · intro h hmarked
    exact String.toList_inj.mp (eq_of_fillFrom_eq_self hmarker hmarked h)
  · intro h
    by_cases hmarked : marker.toList <:+: text.toList
    · rw [h hmarked, fillFrom_self hmarker]
    · exact fillFrom_of_unmarked hmarked

/-! ### Texts inside a page -/

/-- The characters that are not written as themselves. -/
def special : List Char := ['&', '<', '>', '"']

/-- A special character is written as a name behind an ampersand, any other one
as it is. -/
lemma escapedChar_cases (c : Char) :
    (c ∈ special ∧ ∃ name, (∀ x ∈ name, x ∉ '\x7b' :: special) ∧ escapedChar c = '&' :: name)
      ∨ c ∉ special ∧ escapedChar c = [c] := by
  by_cases h : c ∈ special
  · refine .inl ⟨h, ?_⟩
    simp only [special, List.mem_cons, List.not_mem_nil, or_false] at h
    obtain rfl | rfl | rfl | rfl := h
    · exact ⟨"amp;".toList, by simp [special], rfl⟩
    · exact ⟨"lt;".toList, by simp [special], rfl⟩
    · exact ⟨"gt;".toList, by simp [special], rfl⟩
    · exact ⟨"quot;".toList, by simp [special], rfl⟩
  · refine .inr ⟨h, ?_⟩
    simp only [special, List.mem_cons, List.not_mem_nil, or_false, not_or] at h
    rw [escapedChar, if_neg h.1, if_neg h.2.1, if_neg h.2.2.1, if_neg h.2.2.2]

/-- A text without special characters starts what is escaped just when it
starts the text. -/
lemma prefix_flatMap_escapedChar_iff {word : List Char} (hword : ∀ c ∈ word, c ∉ special)
    (cs : List Char) : word <+: cs.flatMap escapedChar ↔ word <+: cs := by
  induction word generalizing cs with
  | nil => exact iff_of_true List.nil_prefix List.nil_prefix
  | cons w ws ih =>
    have hw := hword w List.mem_cons_self
    cases cs with
    | nil => rw [List.flatMap_nil]
    | cons c cs =>
      rw [List.flatMap_cons, List.cons_prefix_cons]
      obtain ⟨hc, name, -, he⟩ | ⟨-, he⟩ := escapedChar_cases c
      · rw [he, List.cons_append, List.cons_prefix_cons]
        refine iff_of_false ?_ ?_
        · rintro ⟨rfl, -⟩
          exact hw (by decide)
        · rintro ⟨rfl, -⟩
          exact hw hc
      · rw [he, List.cons_append, List.nil_append, List.cons_prefix_cons,
          ih fun c hc => hword c (List.mem_cons_of_mem w hc)]

/-- A text without special characters that starts with a brace stands in what
is escaped just when it stands in the text. -/
lemma infix_flatMap_escapedChar_iff {word : List Char}
    (hword : ∀ c ∈ '\x7b' :: word, c ∉ special) (cs : List Char) :
    '\x7b' :: word <:+: cs.flatMap escapedChar ↔ '\x7b' :: word <:+: cs := by
  induction cs with
  | nil => rw [List.flatMap_nil]
  | cons c cs ih =>
    have hstart := prefix_flatMap_escapedChar_iff hword (c :: cs)
    rw [List.flatMap_cons] at hstart ⊢
    obtain ⟨hc, name, hname, he⟩ | ⟨-, he⟩ := escapedChar_cases c
    · -- no brace stands in what is written for a special character
      have hbrace : '\x7b' ∉ '&' :: name := fun hmem =>
        (List.mem_cons.mp hmem).elim (by decide) fun h => hname _ h List.mem_cons_self
      have hne : '\x7b' ≠ c := fun h => hword _ List.mem_cons_self (h ▸ hc)
      rw [he, infix_append_iff_of_notMem hbrace, ih, List.infix_cons_iff, List.cons_prefix_cons]
      simp [hne]
    · rw [he, List.cons_append, List.nil_append] at hstart ⊢
      rw [List.infix_cons_iff, List.infix_cons_iff, hstart, ih]

lemma toList_escaped (s : String) : (escaped s).toList = s.toList.flatMap escapedChar := by
  rw [escaped, String.toList_ofList]

/-- No text that is escaped has mark-up in it. -/
lemma not_markup_of_mem_escaped {s : String} {c : Char} (h : c ∈ (escaped s).toList) :
    c ≠ '<' ∧ c ≠ '>' ∧ c ≠ '"' := by
  have hplain {c : Char} (hc : c ∉ special) : c ≠ '<' ∧ c ≠ '>' ∧ c ≠ '"' := by
    simp only [special, List.mem_cons, List.not_mem_nil, or_false, not_or] at hc
    exact hc.2
  rw [toList_escaped, List.mem_flatMap] at h
  obtain ⟨x, -, h⟩ := h
  obtain ⟨-, name, hname, he⟩ | ⟨hx, he⟩ := escapedChar_cases x
  · rw [he, List.mem_cons] at h
    obtain rfl | h := h
    · decide
    · exact hplain fun hc => hname c h (List.mem_cons_of_mem _ hc)
  · rw [he, List.mem_singleton] at h
    rw [h]
    exact hplain hx

/-- The characters of a text read back from a page: the four names behind
ampersands stand for the special characters. -/
def unescapedChars : List Char → List Char
  | '&' :: 'a' :: 'm' :: 'p' :: ';' :: cs => '&' :: unescapedChars cs
  | '&' :: 'l' :: 't' :: ';' :: cs => '<' :: unescapedChars cs
  | '&' :: 'g' :: 't' :: ';' :: cs => '>' :: unescapedChars cs
  | '&' :: 'q' :: 'u' :: 'o' :: 't' :: ';' :: cs => '"' :: unescapedChars cs
  | c :: cs => c :: unescapedChars cs
  | [] => []

/-- A text read back from a page. -/
def unescaped (s : String) : String := String.ofList (unescapedChars s.toList)

lemma unescapedChars_escapedChar_append (c : Char) (cs : List Char) :
    unescapedChars (escapedChar c ++ cs) = c :: unescapedChars cs := by
  by_cases h : c ∈ special
  · simp only [special, List.mem_cons, List.not_mem_nil, or_false] at h
    obtain rfl | rfl | rfl | rfl := h <;> rfl
  · have he : escapedChar c = [c] := (escapedChar_cases c).elim (fun hc => absurd hc.1 h) (·.2)
    have hc : c ≠ '&' := fun hc => h (hc ▸ List.mem_cons_self)
    rw [he, List.singleton_append]
    cases cs <;> simp [unescapedChars, hc]

/-- A text that is escaped reads back. -/
lemma unescaped_escaped (s : String) : unescaped (escaped s) = s := by
  rw [unescaped, toList_escaped, ← String.toList_inj, String.toList_ofList]
  induction s.toList with
  | nil => rfl
  | cons c cs ih => rw [List.flatMap_cons, unescapedChars_escapedChar_append, ih]

end Text

namespace Bundle

open Text

/-! ### Page and description in their pieces -/

/-- The page in front of the title. -/
def opening : String :=
  "<!DOCTYPE html>\n<html>\n<head>\n<meta charset=\"utf-8\">\n<title>"

/-- The page between title and markup. -/
def between : String :=
  "</title>\n<link rel=\"stylesheet\" href=\"style.css\">\n</head>\n<body>\n"

/-- The page after the markup. -/
def closing : String := "\n</body>\n</html>\n"

/-- The description after the name. -/
def explanation : String :=
  "\n\nExported mockup.\n\n"
    ++ "  index.html  page with the markup\n"
    ++ "  style.css   stylesheet\n"
    ++ "  data.fix    fixture script that generates the sample data\n"
    ++ "  data.json   sample data resolved at export time\n"

/-- A page with a title and a markup. -/
def pageOf (title markup : String) : String := opening ++ title ++ between ++ markup ++ closing

/-- A description with a name. -/
def readmeOf (name : String) : String := name ++ explanation

lemma pageTemplate_eq : pageTemplate = pageOf titleMarker markupMarker := by
  unfold pageTemplate pageOf opening between closing
  rfl

lemma readmeTemplate_eq : readmeTemplate = readmeOf titleMarker := by
  unfold readmeTemplate readmeOf explanation
  simp only [String.append_assoc]

lemma toList_titleMarker : titleMarker.toList = '\x7b' :: "title\x7d".toList := rfl

lemma toList_markupMarker : markupMarker.toList = '\x7b' :: "markup\x7d".toList := rfl

/-- No place starts in the pieces of the templates. -/
lemma brace_notMem_opening : '\x7b' ∉ opening.toList := by decide +kernel

lemma brace_notMem_between : '\x7b' ∉ between.toList := by decide +kernel

lemma brace_notMem_explanation : '\x7b' ∉ explanation.toList := by
  unfold explanation
  repeat rw [String.toList_append, List.mem_append, not_or]
  decide +kernel

lemma toList_between : between.toList = '<' :: between.toList.tail := rfl

lemma toList_pageOf (title markup : String) :
    (pageOf title markup).toList = opening.toList
      ++ (title.toList ++ (between.toList ++ (markup.toList ++ closing.toList))) := by
  simp only [pageOf, String.toList_append, List.append_assoc]

/-- The title is put in its place alone. -/
lemma fill_pageTemplate (title : String) :
    fill titleMarker title pageTemplate = pageOf title markupMarker := by
  have hafter : ¬ titleMarker.toList
      <:+: between.toList ++ (markupMarker.toList ++ closing.toList) := by
    rw [toList_titleMarker, infix_append_iff_of_notMem brace_notMem_between]
    decide +kernel
  rw [toList_titleMarker] at hafter
  rw [pageTemplate_eq, ← String.toList_inj, fill, String.toList_ofList, toList_pageOf,
    toList_pageOf, toList_titleMarker, fillFrom_place brace_notMem_opening hafter]

/-- The markup is put in its place, and in all places there are in the title. -/
lemma fill_pageOf (title markup : String) : fill markupMarker markup (pageOf title markupMarker)
    = pageOf (fill markupMarker markup title) markup := by
  have hbefore : '\x7b' ∉ between.toList.tail := fun h =>
    brace_notMem_between (List.mem_of_mem_tail h)
  have hafter : ¬ '\x7b' :: "markup\x7d".toList <:+: closing.toList := by decide +kernel
  rw [← String.toList_inj, fill, String.toList_ofList, toList_pageOf, toList_pageOf, fill,
    String.toList_ofList, toList_between, toList_markupMarker,
    fillFrom_append_of_notMem brace_notMem_opening, List.cons_append,
    fillFrom_append_cons (by decide) (List.cons_ne_nil _ _), fillFrom_place hbefore hafter,
    List.cons_append]

/-- The page of a mockup in its pieces. -/
lemma page_eq (name markup : String) :
    page name markup = pageOf (fill markupMarker markup (escaped name)) markup := by
  rw [page, fill_pageTemplate, fill_pageOf]

/-- The description of a mockup in its pieces. -/
lemma readme_eq (name : String) : readme name = readmeOf name := by
  have hafter : ¬ '\x7b' :: "title\x7d".toList <:+: explanation.toList := fun h =>
    brace_notMem_explanation (h.subset List.mem_cons_self)
  rw [readme, readmeTemplate_eq, fill, ← String.toList_inj, String.toList_ofList, readmeOf,
    readmeOf, String.toList_append, String.toList_append, toList_titleMarker,
    fillFrom_marker_append (List.cons_ne_nil _ _), fillFrom_of_unmarked hafter]

lemma pageOf_inj_left {title title' markup : String} :
    pageOf title markup = pageOf title' markup ↔ title = title' := by
  rw [← String.toList_inj, toList_pageOf, toList_pageOf, List.append_cancel_left_eq,
    List.append_cancel_right_eq, String.toList_inj]

/-- The name stands in the title as it is escaped just when the place of the
markup is not in it, or is filled with itself. -/
lemma page_eq_iff (name markup : String) : page name markup = pageOf (escaped name) markup
    ↔ (markupMarker.toList <:+: name.toList → markup = markupMarker) := by
  have hword : ∀ c ∈ '\x7b' :: "markup\x7d".toList, c ∉ special := by simp [special]
  have hplace : markupMarker.toList <:+: name.toList.flatMap escapedChar
      ↔ markupMarker.toList <:+: name.toList :=
    infix_flatMap_escapedChar_iff hword name.toList
  rw [page_eq, pageOf_inj_left, fill_eq_self_iff (by decide), toList_escaped, hplace]

/-- What the files of a bundle hold. The page is its template with a title and
the markup as it is; the title is the name escaped, which has no mark-up in it
and reads back, unless the place of the markup is in the name: that place is
filled as well. The other sources are as they are, and the description is its
template with the name. -/
theorem files_eq (name : String) (sources : Sources) (data : Json) :
    (∃ title,
      files name sources data = [("index.html", pageOf title sources.markup),
        ("style.css", sources.style), ("data.fix", sources.script), ("data.json", data.pretty),
        ("README.txt", readmeOf name)]
      ∧ title = fill markupMarker sources.markup (escaped name)
      ∧ (title = escaped name
        ↔ (markupMarker.toList <:+: name.toList → sources.markup = markupMarker)))
    ∧ pageTemplate = pageOf titleMarker markupMarker
    ∧ readmeTemplate = readmeOf titleMarker
    ∧ (∀ c ∈ (escaped name).toList, c ≠ '<' ∧ c ≠ '>' ∧ c ≠ '"')
    ∧ unescaped (escaped name) = name := by
  refine ⟨⟨_, ?_, rfl, ?_⟩, pageTemplate_eq, readmeTemplate_eq,
    fun c => not_markup_of_mem_escaped, unescaped_escaped name⟩
  · rw [files, page_eq, readme_eq]
    rfl
  · rw [← pageOf_inj_left, ← page_eq, page_eq_iff]

/-- The title of a page is not always the name of the mockup: in a name that
has the place of the markup in it, that place is filled. -/
theorem markup_in_title : ¬ ∀ (name : String) (sources : Sources) (data : Json),
    ("index.html", pageOf (escaped name) sources.markup) ∈ files name sources data := by
  intro h
  have hmem := h markupMarker ⟨"<b>", "", ""⟩ .null
  have hpage : pageOf (escaped markupMarker) "<b>" = page markupMarker "<b>" := by
    simpa [files, Stage.fileName] using hmem
  -- the place is in the name, and is not what it is filled with
  exact absurd ((page_eq_iff markupMarker "<b>").mp hpage.symm List.infix_rfl) (by decide)

end Bundle

end MockupStudio
