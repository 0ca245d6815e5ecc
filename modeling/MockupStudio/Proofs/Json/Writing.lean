/-
What is written as JSON is read back.

* `Json.Appends`: a writer puts characters behind a text that are read as a value;
* `Json.appends_array`, `Json.appends_object`: arrays and objects, whatever the gaps
  between their parts are;
* `Json.Compact`, `Json.Pretty`: data that is read as a value where it is written on
  one line or over several lines; `Json.read_compact`, `Json.read_pretty`: then that is
  the value of the whole;
* `Json.Spelling`: what both do with texts, arrays and objects.
-/
import MockupStudio.Proofs.Json.Reading

namespace MockupStudio.Json

/-- A writer puts characters behind a text that are read as a value. -/
def Appends (append : String → String) (w : Written) : Prop :=
  ∀ out, ∃ cs, (append out).toList = out.toList ++ cs ∧ ReadsAs cs w

/-- A relation of data with what is read, extended to members with their keys. -/
def Member (spelt : Json → Written → Prop) (member : String × Json)
    (w : Option String × Written) : Prop :=
  w.1 = some member.1 ∧ spelt member.2 w.2

/-- What a notation of data does with texts, arrays and objects. -/
structure Spelling (spelt : Json → Written → Prop) : Prop where
  text (s : String) : spelt (.text s) (.text (some s))
  array {items : List Json} {ws : List Written} : List.Forall₂ spelt items ws →
    spelt (.array items) (.array ws)
  object {members : List (String × Json)} {entries : List (Option String × Written)} :
    List.Forall₂ (Member spelt) members entries → spelt (.object members) (.object entries)

lemma blank_nil : Blank [] := fun _ h => absurd h List.not_mem_nil

lemma blank_space : Blank [' '] := by
  intro c hc
  rw [List.mem_singleton.mp hc]
  rfl

lemma blank_newLine (level : Nat) : Blank (newLine level).toList := by
  intro c hc
  simp only [newLine, String.toList_append, String.toList_ofList, List.mem_append] at hc
  rcases hc with hc | hc
  · rw [List.mem_singleton.mp hc]
    rfl
  · rw [List.eq_of_mem_replicate hc]
    rfl

/-- A writer whose characters are read as a value writes it. -/
lemma read_of_appends {append : String → String} {w : Written} (h : Appends append w) :
    read? (append "") = some w := by
  obtain ⟨cs, hcs, hreads⟩ := h ""
  rw [show "".toList ++ cs = cs from rfl] at hcs
  exact ReadsAs.read (hcs ▸ hreads)

/-! ### Arrays and objects -/

section Appends

variable {append : String → Json → String} {items : List Json} {ws : List Written}
  {members : List (String × Json)} {entries : List (Option String × Written)}
  {item : Json} {member : String × Json} {w : Written} {entry : Option String × Written}
  {gap close space : String}

lemma exists_laterItems (gap : String)
    (h : List.Forall₂ (fun item w => Appends (append · item) w) items ws) (out : String) :
    ∃ texts, List.Forall₂ ReadsAs texts ws
      ∧ (items.foldl (fun out item => append (out ++ "," ++ gap) item) out).toList
        = out.toList ++ laterItems gap.toList texts := by
  induction h generalizing out with
  | nil => exact ⟨[], .nil, (List.append_nil _).symm⟩
  | @cons item w items ws hitem _ ih =>
    obtain ⟨cs, hcs, hreads⟩ := hitem (out ++ "," ++ gap)
    obtain ⟨texts, htexts, hlater⟩ := ih (append (out ++ "," ++ gap) item)
    refine ⟨cs :: texts, .cons hreads htexts, ?_⟩
    rw [List.foldl_cons, hlater, hcs]
    simp [laterItems]

/-- An array whose items are written one after the other. -/
lemma appends_array (append : String → Json → String) (hgap : Blank gap.toList)
    (hclose : Blank close.toList) (hitem : Appends (append · item) w)
    (hitems : List.Forall₂ (fun item w => Appends (append · item) w) items ws) :
    Appends (fun out => items.foldl (fun out item => append (out ++ "," ++ gap) item)
      (append (out ++ "[" ++ gap) item) ++ close ++ "]") (.array (w :: ws)) := by
  intro out
  obtain ⟨cs, hcs, hreads⟩ := hitem (out ++ "[" ++ gap)
  obtain ⟨texts, htexts, hlater⟩ :=
    exists_laterItems gap hitems (append (out ++ "[" ++ gap) item)
  refine ⟨_, ?_, readsAs_array hgap hclose (.cons hreads htexts)⟩
  rw [String.toList_append, String.toList_append, hlater, hcs]
  simp [arrayText]

lemma exists_laterMembers (gap space : String)
    (h : List.Forall₂ (Member fun data => Appends (append · data)) members entries) (out : String) :
    ∃ texts, List.Forall₂ MemberReadsAs texts entries
      ∧ (members.foldl (fun out (member : String × Json) =>
          append (out ++ "," ++ gap ++ writeString member.1 ++ ":" ++ space) member.2) out).toList
        = out.toList ++ laterMembers gap.toList space.toList texts := by
  induction h generalizing out with
  | nil => exact ⟨[], .nil, (List.append_nil _).symm⟩
  | @cons member w members entries hmember _ ih =>
    obtain ⟨hkey, hvalue⟩ := hmember
    obtain ⟨cs, hcs, hreads⟩ := hvalue (out ++ "," ++ gap ++ writeString member.1 ++ ":" ++ space)
    obtain ⟨texts, htexts, hlater⟩ :=
      ih (append (out ++ "," ++ gap ++ writeString member.1 ++ ":" ++ space) member.2)
    refine ⟨(member.1, cs) :: texts, .cons ⟨hkey, hreads⟩ htexts, ?_⟩
    rw [List.foldl_cons, hlater, hcs]
    simp [laterMembers, memberText]

/-- An object whose members are written one after the other. -/
lemma appends_object (append : String → Json → String) (hgap : Blank gap.toList)
    (hclose : Blank close.toList) (hspace : Blank space.toList)
    (hmember : Member (fun data => Appends (append · data)) member entry)
    (hmembers : List.Forall₂ (Member fun data => Appends (append · data)) members entries) :
    Appends (fun out => members.foldl (fun out (member : String × Json) =>
        append (out ++ "," ++ gap ++ writeString member.1 ++ ":" ++ space) member.2)
      (append (out ++ openBrace ++ gap ++ writeString member.1 ++ ":" ++ space) member.2)
        ++ close ++ closeBrace) (.object (entry :: entries)) := by
  intro out
  obtain ⟨hkey, hvalue⟩ := hmember
  obtain ⟨cs, hcs, hreads⟩ :=
    hvalue (out ++ openBrace ++ gap ++ writeString member.1 ++ ":" ++ space)
  obtain ⟨texts, htexts, hlater⟩ := exists_laterMembers gap space hmembers
    (append (out ++ openBrace ++ gap ++ writeString member.1 ++ ":" ++ space) member.2)
  have hfirst : MemberReadsAs (member.1, cs) entry := ⟨hkey, hreads⟩
  refine ⟨_, ?_, readsAs_object hgap hclose hspace (.cons hfirst htexts)⟩
  rw [String.toList_append, String.toList_append, hlater, hcs]
  simp [objectText, memberText, openBrace, closeBrace]

end Appends

/-! ### On one line -/

/-- Data that is read as a value where it is written on one line. -/
def Compact (data : Json) (w : Written) : Prop := Appends (appendCompact · data) w

section Compact

variable {items : List Json} {ws : List Written} {members : List (String × Json)}
  {entries : List (Option String × Written)} {data : Json} {w : Written}

lemma appendItems_eq_foldl (out : String) (items : List Json) : appendItems out false items
    = items.foldl (fun out item => appendCompact (out ++ "," ++ "") item) out := by
  induction items generalizing out with
  | nil => rfl
  | cons item items ih =>
    rw [List.foldl_cons, ← ih, String.append_empty]
    rfl

lemma appendMembers_eq_foldl (out : String) (members : List (String × Json)) :
    appendMembers out false members = members.foldl (fun out (member : String × Json) =>
      appendCompact (out ++ "," ++ "" ++ writeString member.1 ++ ":" ++ "") member.2) out := by
  induction members generalizing out with
  | nil => rfl
  | cons member members ih =>
    rw [List.foldl_cons, ← ih, String.append_empty, String.append_empty]
    rfl

lemma compact_array (h : List.Forall₂ Compact items ws) : Compact (.array items) (.array ws) := by
  cases h with
  | nil =>
    intro out
    exact ⟨_, by simp [appendCompact, appendItems, arrayText],
      readsAs_array blank_nil blank_nil .nil⟩
  | @cons item w items ws hitem hitems =>
    have hwritten : (appendCompact · (.array (item :: items))) = fun out =>
        items.foldl (fun out item => appendCompact (out ++ "," ++ "") item)
          (appendCompact (out ++ "[" ++ "") item) ++ "" ++ "]" := by
      funext out
      rw [← appendItems_eq_foldl, String.append_empty, String.append_empty]
      rfl
    rw [Compact, hwritten]
    exact appends_array appendCompact blank_nil blank_nil hitem hitems

lemma compact_object (h : List.Forall₂ (Member Compact) members entries) :
    Compact (.object members) (.object entries) := by
  cases h with
  | nil =>
    intro out
    exact ⟨_, by simp [appendCompact, appendMembers, objectText, openBrace, closeBrace],
      readsAs_object blank_nil blank_nil blank_nil .nil⟩
  | @cons member entry members entries hmember hmembers =>
    have hwritten : (appendCompact · (.object (member :: members))) = fun out =>
        members.foldl (fun out (member : String × Json) =>
            appendCompact (out ++ "," ++ "" ++ writeString member.1 ++ ":" ++ "") member.2)
          (appendCompact (out ++ openBrace ++ "" ++ writeString member.1 ++ ":" ++ "") member.2)
            ++ "" ++ closeBrace := by
      funext out
      rw [← appendMembers_eq_foldl, String.append_empty, String.append_empty, String.append_empty]
      rfl
    rw [Compact, hwritten]
    exact appends_object appendCompact blank_nil blank_nil blank_nil hmember hmembers

lemma spelling_compact : Spelling Compact where
  text s _ := ⟨(writeString s).toList, String.toList_append, readsAs_text s⟩
  array := compact_array
  object := compact_object

/-- What is written on one line is read as the value that it is. -/
theorem read_compact (h : Compact data w) : read? data.compact = some w := read_of_appends h

end Compact

/-! ### Over several lines -/

/-- Data that is read as a value where it is written over several lines. -/
def Pretty (data : Json) (w : Written) : Prop :=
  ∀ level, Appends (fun out => appendPretty out level data) w

section Pretty

variable {items : List Json} {ws : List Written} {members : List (String × Json)}
  {entries : List (Option String × Written)} {data : Json} {w : Written}

lemma appendPrettyItems_eq_foldl (out : String) (level : Nat) (items : List Json) :
    appendPrettyItems out level items = items.foldl (fun out item =>
      appendPretty (out ++ "," ++ newLine level) level item) out := by
  induction items generalizing out with
  | nil => rfl
  | cons item items ih =>
    rw [List.foldl_cons, ← ih]
    rfl

lemma append_colon_space (s : String) : s ++ ":" ++ " " = s ++ ": " := by
  rw [String.append_assoc]
  rfl

lemma appendPrettyMembers_eq_foldl (out : String) (level : Nat) (members : List (String × Json)) :
    appendPrettyMembers out level members = members.foldl (fun out (member : String × Json) =>
      appendPretty (out ++ "," ++ newLine level ++ writeString member.1 ++ ":" ++ " ") level
        member.2) out := by
  induction members generalizing out with
  | nil => rfl
  | cons member members ih =>
    rw [List.foldl_cons, ← ih, append_colon_space]
    rfl

lemma pretty_array (h : List.Forall₂ Pretty items ws) : Pretty (.array items) (.array ws) := by
  intro level
  cases h with
  | nil =>
    intro out
    exact ⟨_, by simp [appendPretty, arrayText], readsAs_array blank_nil blank_nil .nil⟩
  | @cons item w items ws hitem hitems =>
    have hwritten : (appendPretty · level (.array (item :: items))) = fun out =>
        items.foldl (fun out item =>
            appendPretty (out ++ "," ++ newLine (level + 1)) (level + 1) item)
          (appendPretty (out ++ "[" ++ newLine (level + 1)) (level + 1) item)
            ++ newLine level ++ "]" := by
      funext out
      rw [← appendPrettyItems_eq_foldl]
      rfl
    rw [hwritten]
    exact appends_array (fun out => appendPretty out (level + 1)) (blank_newLine _)
      (blank_newLine level) (hitem (level + 1)) (hitems.imp fun _ _ h => h (level + 1))

lemma pretty_object (h : List.Forall₂ (Member Pretty) members entries) :
    Pretty (.object members) (.object entries) := by
  intro level
  cases h with
  | nil =>
    intro out
    exact ⟨_, by simp [appendPretty, objectText, openBrace, closeBrace],
      readsAs_object blank_nil blank_nil blank_nil .nil⟩
  | @cons member entry members entries hmember hmembers =>
    have hinner (member : String × Json) (w : Option String × Written)
        (h : Member Pretty member w) : Member (fun data => Appends (appendPretty · (level + 1) data)) member w :=
      ⟨h.1, h.2 (level + 1)⟩
    have hwritten : (appendPretty · level (.object (member :: members))) = fun out =>
        members.foldl (fun out (member : String × Json) =>
            appendPretty (out ++ "," ++ newLine (level + 1) ++ writeString member.1 ++ ":" ++ " ")
              (level + 1) member.2)
          (appendPretty (out ++ openBrace ++ newLine (level + 1) ++ writeString member.1 ++ ":"
              ++ " ") (level + 1) member.2)
            ++ newLine level ++ closeBrace := by
      funext out
      rw [← appendPrettyMembers_eq_foldl, append_colon_space]
      rfl
    rw [hwritten]
    exact appends_object (fun out => appendPretty out (level + 1)) (blank_newLine _)
      (blank_newLine level) blank_space (hinner member entry hmember)
      (hmembers.imp hinner)

lemma spelling_pretty : Spelling Pretty where
  text s _ _ := ⟨(writeString s).toList, String.toList_append, readsAs_text s⟩
  array := pretty_array
  object := pretty_object

/-- What is written over several lines is read as the value that it is. -/
theorem read_pretty (h : Pretty data w) : read? data.pretty = some w := read_of_appends (h 0)

end Pretty

end MockupStudio.Json
