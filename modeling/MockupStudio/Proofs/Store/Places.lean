/-
Where documents are kept, in a directory and behind a service.

* `FileName.extension?`, `withoutExtension`, `withExtension`: a name taken apart at
  its last point;
* `Path.Place`: a path by its names, with its parent, its last name and what can be
  read off that name; `Path.place_join` says what lies below a directory;
* `Address.join_segment`: a segment that is joined takes the last place;
* `Id.Safe`: an id names files in a directory and a segment of an address, and
  nothing else; `Id.safe_of_isValid` says that every accepted id is safe.
-/
import MockupStudio.Files.Path
import MockupStudio.Proofs.Store.Directory
import MockupStudio.Store.Remote

namespace MockupStudio

/-! ### Names of files -/

namespace FileName

variable {name extension stem : String}

/-- What comes after the last point of a name, unless the name begins with it. -/
def extension? (name : String) : Option String :=
  match splitLast name.toList with
  | some (stem, rest) => if stem.isEmpty then none else some (String.ofList rest)
  | none => none

/-- A name without its extension. -/
def withoutExtension (name : String) : String :=
  match splitLast name.toList with
  | some (stem, _) => if stem.isEmpty then name else String.ofList stem
  | none => name

/-- A name with another extension. -/
def withExtension (extension name : String) : String :=
  if extension = "" then withoutExtension name else withoutExtension name ++ "." ++ extension

/-- A name is looked at by its extension. -/
lemma stem?_eq_some_iff : stem? extension name = some stem
    ↔ extension? name = some extension ∧ withoutExtension name = stem := by
  rw [stem?, extension?, withoutExtension]
  cases splitLast name.toList with
  | none => simp
  | some split =>
    obtain ⟨before, after⟩ := split
    have hafter : after = extension.toList ↔ String.ofList after = extension := by
      rw [← String.toList_inj, String.toList_ofList]
    by_cases hbefore : before.isEmpty <;> simp [hbefore, hafter]

/-- The file of a document by its extension and what comes before it. -/
lemma readings_documentFile {id : String} (hid : id ≠ "") :
    extension? (documentFile id) = some documentExtension
      ∧ withoutExtension (documentFile id) = id :=
  stem?_eq_some_iff.mp (stem_eq_some_iff.mpr ⟨rfl, hid⟩)

end FileName

/-! ### Paths -/

namespace Path

variable {root name : String}

/-- Where a path leads, name by name. -/
structure Place where
  absolute : Bool
  names : List String
  deriving Repr, DecidableEq

/-- Where a path leads. -/
def place (path : String) : Place := ⟨isAbsolute path, names path⟩

namespace Place

/-- The directory that a place is in. -/
def parent? (p : Place) : Option Place :=
  if p.names.isEmpty then none else some { p with names := p.names.dropLast }

/-- The last name, unless it leads upwards. -/
def fileName? (p : Place) : Option String := p.names.getLast?.filter (· ≠ "..")

/-- The extension of the last name. -/
def extension? (p : Place) : Option String := p.fileName?.bind FileName.extension?

/-- The last name without its extension. -/
def stem? (p : Place) : Option String := p.fileName?.map FileName.withoutExtension

/-- The place beside it whose name has another extension. -/
def withExtension (extension : String) (p : Place) : Place :=
  match p.fileName? with
  | some name => { p with names := p.names.dropLast ++ [FileName.withExtension extension name] }
  | none => p

end Place

lemma pieces_ne_nil (cs : List Char) : pieces cs ≠ [] := by
  cases cs with
  | nil => exact List.cons_ne_nil _ _
  | cons c cs =>
    rw [pieces]
    split
    · exact List.cons_ne_nil _ _
    · split <;> exact List.cons_ne_nil _ _

lemma pieces_of_notMem {cs : List Char} (h : '/' ∉ cs) : pieces cs = [cs] := by
  induction cs with
  | nil => rfl
  | cons c cs ih =>
    rw [List.mem_cons, not_or] at h
    rw [pieces, if_neg (Ne.symm h.1), ih h.2]

lemma pieces_append (cs ds : List Char) : pieces (cs ++ '/' :: ds) = pieces cs ++ pieces ds := by
  induction cs with
  | nil => rfl
  | cons c cs ih =>
    rw [List.cons_append, pieces, pieces, ih]
    split
    · rfl
    · cases h : pieces cs with
      | nil => exact absurd h (pieces_ne_nil cs)
      | cons => rfl

/-- A path that is continued after a slash. -/
lemma names_append (path more : String) : names (path ++ "/" ++ more) = names path ++ names more := by
  have hslash : (path ++ "/" ++ more).toList = path.toList ++ '/' :: more.toList := by simp
  rw [names, hslash, pieces_append, List.map_append, List.filter_append]
  rfl

/-- Names that can stand in a directory. -/
structure IsName (name : String) : Prop where
  ne_empty : name ≠ ""
  ne_here : name ≠ "."
  ne_above : name ≠ ".."
  slash : '/' ∉ name.toList

lemma IsName.names_eq (h : IsName name) : names name = [name] := by
  rw [names, pieces_of_notMem h.slash]
  simp [h.ne_empty, h.ne_here]

lemma IsName.isAbsolute_eq (h : IsName name) : isAbsolute name = false := by
  rw [isAbsolute, decide_eq_false_iff_not]
  exact fun hhead => h.slash (List.mem_of_head? hhead)

/-- Below a directory a name is joined behind a slash, unless there is one already or
nothing to stand behind. -/
lemma join_cases (root : String) (h : IsName name) :
    (root ≠ "" ∧ join root name = root ++ "/" ++ name) ∨ (root = "" ∧ join root name = name)
      ∨ ∃ path, root = path ++ "/" ∧ join root name = path ++ "/" ++ name := by
  rw [join, h.isAbsolute_eq, Bool.or_false]
  by_cases hempty : root = ""
  · exact .inr (.inl ⟨hempty, if_pos (decide_eq_true hempty)⟩)
  · rw [if_neg (by simpa using hempty)]
    split
    · next hlast =>
      obtain ⟨cs, hcs⟩ := List.getLast?_eq_some_iff.mp hlast
      have hroot : root = String.ofList cs ++ "/" := by
        rw [← String.toList_inj, hcs]
        simp
      exact .inr (.inr ⟨String.ofList cs, hroot, by rw [hroot]⟩)
    · exact .inl ⟨hempty, rfl⟩

lemma names_join (h : IsName name) : names (join root name) = names root ++ [name] := by
  rcases join_cases root h with ⟨-, hjoin⟩ | ⟨rfl, hjoin⟩ | ⟨path, rfl, hjoin⟩
  · rw [hjoin, names_append, h.names_eq]
  · rw [hjoin, h.names_eq]
    rfl
  · have hpath : names (path ++ "/") = names path := by
      have happend := names_append path ""
      rwa [String.append_empty, show names "" = [] from rfl, List.append_nil] at happend
    rw [hjoin, names_append, h.names_eq, hpath]

lemma isAbsolute_append (path more : String) (h : path ≠ "") :
    isAbsolute (path ++ more) = isAbsolute path := by
  have hpath : path.toList ≠ [] := by simpa using h
  rw [isAbsolute, isAbsolute, String.toList_append, List.head?_append_of_ne_nil _ hpath]

lemma isAbsolute_join (h : IsName name) : isAbsolute (join root name) = isAbsolute root := by
  rcases join_cases root h with ⟨hroot, hjoin⟩ | ⟨rfl, hjoin⟩ | ⟨path, rfl, hjoin⟩
  · rw [hjoin, String.append_assoc, isAbsolute_append _ _ hroot]
  · rw [hjoin, h.isAbsolute_eq]
    rfl
  · rw [hjoin, isAbsolute_append _ _ (by simp)]

/-- What has a name in a directory lies below it under that name. -/
theorem place_join (h : IsName name) : place (join root name)
    = { place root with names := (place root).names ++ [name] } := by
  rw [place, names_join h, isAbsolute_join h]
  rfl

end Path

/-! ### Characters of ids -/

namespace Id

variable {c : Char} {id : String}

lemma toNat_lt_of_allows (h : allows c) : c.toNat < 128 := by
  simp only [allows, Char.isAlphanum, Char.isAlpha, Char.isUpper, Char.isLower, Char.isDigit,
    Bool.or_eq_true, Bool.and_eq_true, decide_eq_true_eq, UInt32.le_iff_toNat_le] at h
  rcases h with ((((h | h) | h) | rfl) | rfl) | rfl
  · exact Nat.lt_of_le_of_lt h.2 (by decide)
  · exact Nat.lt_of_le_of_lt h.2 (by decide)
  · exact Nat.lt_of_le_of_lt h.2 (by decide)
  · decide
  · decide
  · decide

/-- What holds of all characters that ids are made of can be tried out. -/
lemma of_allows (P : Char → Prop) (hall : ∀ n < 128, allows (Char.ofNat n) → P (Char.ofNat n))
    (h : allows c) : P c := by
  have hc := hall c.toNat (toNat_lt_of_allows h)
  rw [Char.ofNat_toNat] at hc
  exact hc h

/-- Characters of ids stand for themselves in an address, also after a change to
lower case. -/
lemma plain_of_allows (h : allows c) :
    (c ≠ '/' ∧ c ≠ '\\' ∧ Percent.encodeChar Percent.inPath c = [c])
      ∧ c.toLower ≠ '%' ∧ (c.toLower = '.' → c = '.') :=
  of_allows (fun c => (c ≠ '/' ∧ c ≠ '\\' ∧ Percent.encodeChar Percent.inPath c = [c])
    ∧ c.toLower ≠ '%' ∧ (c.toLower = '.' → c = '.')) (by decide +kernel) h

/-- What an accepted id is. -/
lemma isValid_iff : isValid id ↔ (id ≠ "" ∧ id.utf8ByteSize ≤ maxLength)
    ∧ id.toList.head? ≠ some '.' ∧ ∀ c ∈ id.toList, allows c := by
  simp [isValid, and_assoc]

/-- An id begins with what is neither a point nor the sign that stands for one. -/
lemma head_toLower (h : isValid id) (hc : id.toLower.toList.head? = some c) : c ≠ '.' ∧ c ≠ '%' := by
  obtain ⟨-, hpoint, hall⟩ := isValid_iff.mp h
  rw [String.toLower, String.toList_map, List.head?_map] at hc
  obtain ⟨first, hfirst, rfl⟩ := Option.map_eq_some_iff.mp hc
  obtain ⟨-, hpercent, hlower⟩ := plain_of_allows (hall first (List.mem_of_head? hfirst))
  exact ⟨fun heq => hpoint (hlower heq ▸ hfirst), hpercent⟩

/-- An id can stand in a directory, whatever comes behind it. -/
lemma isName_append (h : isValid id) {rest : String} (hlength : 2 < rest.toList.length)
    (hslash : '/' ∉ rest.toList) : Path.IsName (id ++ rest) := by
  obtain ⟨-, -, hall⟩ := isValid_iff.mp h
  have hlong (name : String) (hname : name.toList.length ≤ 2) : id ++ rest ≠ name := by
    rintro rfl
    rw [String.toList_append, List.length_append] at hname
    omega
  refine ⟨hlong "" (by decide), hlong "." (by decide), hlong ".." (by decide), fun hmem => ?_⟩
  rw [String.toList_append, List.mem_append] at hmem
  rcases hmem with hmem | hmem
  · exact (plain_of_allows (hall _ hmem)).1.1 rfl
  · exact hslash hmem

lemma isName_documentFile (h : isValid id) : Path.IsName (documentFile id) := by
  have hfile : documentFile id = id ++ ".json" := String.append_assoc
  rw [hfile]
  exact isName_append h (by decide) (by decide)

lemma isName_draftFile (h : isValid id) : Path.IsName (draftFile id) := by
  have hfile : draftFile id = id ++ ".json.tmp" := by
    rw [draftFile, documentFile, String.append_assoc, String.append_assoc]
    rfl
  rw [hfile]
  exact isName_append h (by decide) (by decide)

end Id

/-! ### Addresses -/

namespace Address

variable {id : String} {a : Address}

lemma splitSegments_id (h : Id.isValid id) : splitSegments true id.toList = [id] := by
  obtain ⟨-, -, hall⟩ := Id.isValid_iff.mp h
  have hplain (c : Char) (hc : c ∈ id.toList) := (Id.plain_of_allows (hall c hc)).1
  have hslashes : id.toList.map (fun c => if c = '\\' then '/' else c) = id.toList :=
    (List.map_congr_left fun c hc => if_neg (hplain c hc).2.1).trans (List.map_id _)
  have hsplit : id.toList.splitOn '/' = [id.toList] :=
    List.splitOnP_eq_singleton fun c hc => beq_false_of_ne (hplain c hc).1
  have hencode : Percent.encode Percent.inPath id.toList = id.toList :=
    (List.flatMap_congr fun c hc => (hplain c hc).2.2).trans (List.flatMap_singleton' _)
  rw [splitSegments]
  simp only [if_true, hslashes, hsplit, List.map_cons, List.map_nil, hencode, String.ofList_toList]

/-- Segments that lead elsewhere begin with a point or with the sign that stands for
one. -/
lemma not_isAbove_isHere (h : Id.isValid id) : isAbove id = false ∧ isHere id = false := by
  have hhead (text : String) (htext : text.toList.head? = some '.' ∨ text.toList.head? = some '%') :
      id.toLower ≠ text := by
    rintro rfl
    rcases htext with hc | hc
    · exact (Id.head_toLower h hc).1 rfl
    · exact (Id.head_toLower h hc).2 rfl
  have hpoint : id ≠ "." := by
    rintro rfl
    cases h
  constructor
  · simp [isAbove, hhead]
  · simp [isHere, hhead, hpoint]

/-- An id that is joined takes the place after the last slash. -/
theorem join_id (h : Id.isValid id) (a : Address) :
    a.join id = { a with segments := a.segments.dropLast ++ [id] } := by
  obtain ⟨habove, hhere⟩ := not_isAbove_isHere h
  rw [join, splitSegments_id h, follow, habove, hhere]
  simp

lemma path_append (a : Address) (segments : List String) (segment : String) :
    ({ a with segments := segments ++ [segment] } : Address).path
      = ({ a with segments } : Address).path ++ "/" ++ segment := by
  rw [path, path, List.foldl_append]
  rfl

/-- The address of all documents ends in a slash. -/
lemma segments_collectionOf (base : Address) : ∃ segments,
    Service.collectionOf base = { base with segments := segments ++ [""] } := by
  have hname : splitSegments true Service.collectionName.toList = ["project", ""] := by decide
  have hdirectory : base.asDirectory = { base with segments := base.asDirectory.segments } := by
    rw [asDirectory]
    split <;> rfl
  refine ⟨base.asDirectory.segments.dropLast ++ ["project"], ?_⟩
  rw [Service.collectionOf, join, hname, hdirectory]
  have hproject : isAbove "project" = false ∧ isHere "project" = false := by decide +kernel
  have hlast : isAbove "" = false ∧ isHere "" = false := by decide +kernel
  simp [follow, hproject, hlast]

end Address

/-! ### Safe ids -/

/-- Where the file of a document is, in the directory at a path. -/
def documentPlace (root id : String) : Path.Place := Path.place (Path.join root (documentFile id))

/-- Where a document is prepared: beside its file, under another extension. -/
def draftPlace (root id : String) : Path.Place :=
  (documentPlace root id).withExtension (documentExtension ++ ".tmp")

namespace Id

/-- An id names a file in a directory and a segment of an address, and nothing else.
Other accepted ids have other files and other addresses. -/
structure Safe {σ : Type} (root : String) (service : Service σ) (id : String) : Prop where
  document_parent : (documentPlace root id).parent? = some (Path.place root)
  document_name : (documentPlace root id).fileName? = some (id ++ ".json")
  draft_parent : (draftPlace root id).parent? = some (Path.place root)
  draft_name : (draftPlace root id).fileName? = some (id ++ ".json.tmp")
  /-- This is the file that is written first. -/
  draft_eq : draftPlace root id = Path.place (Path.join root (draftFile id))
  extension : (documentPlace root id).extension? = some "json"
  stem : (documentPlace root id).stem? = some id
  /-- A listing has the id just if its file holds a document. -/
  listed (folder : Folder) : (∃ summary ∈ Folder.summaries folder, summary.id = id)
    ↔ ∃ text, (documentFile id, .file text) ∈ folder ∧ (Folder.decode? id text).isSome
  document_injective (other : String) : isValid other →
    documentPlace root other = documentPlace root id → other = id
  draft_ne_document (other : String) : isValid other →
    draftPlace root other ≠ documentPlace root id ∧ documentPlace root other ≠ draftPlace root id
  item_eq : ∃ segments, service.collection = { service.base with segments := segments ++ [""] }
    ∧ service.item id = { service.base with segments := segments ++ [id] }
  item_text : (service.item id).text = service.collection.text ++ id
  item_injective (other : String) : isValid other → service.item other = service.item id →
    other = id

section Places

variable {σ : Type} {root id : String}

lemma documentPlace_eq (h : isValid id) : documentPlace root id
    = { Path.place root with names := (Path.place root).names ++ [documentFile id] } :=
  Path.place_join (isName_documentFile h)

/-- A file below a directory has it as its parent, and is found under its name. -/
lemma parent_fileName {p : Path.Place} {name : String} (h : Path.IsName name) :
    ({ p with names := p.names ++ [name] } : Path.Place).parent? = some p
      ∧ ({ p with names := p.names ++ [name] } : Path.Place).fileName? = some name := by
  constructor
  · simp [Path.Place.parent?]
  · simp [Path.Place.fileName?, h.ne_above]

lemma draftPlace_eq (h : isValid id) : draftPlace root id
    = { Path.place root with names := (Path.place root).names ++ [draftFile id] } := by
  have hne : id ≠ "" := (isValid_iff.mp h).1.1
  have hdraft : FileName.withExtension (documentExtension ++ ".tmp") (documentFile id)
      = draftFile id := by
    rw [FileName.withExtension, (FileName.readings_documentFile hne).2, if_neg (by decide),
      ← String.append_assoc]
    rfl
  rw [draftPlace, documentPlace_eq h, Path.Place.withExtension,
    (parent_fileName (isName_documentFile h)).2]
  simp [hdraft]

lemma listed_iff (h : isValid id) (folder : Folder) :
    (∃ summary ∈ Folder.summaries folder, summary.id = id)
      ↔ ∃ text, (documentFile id, .file text) ∈ folder ∧ (Folder.decode? id text).isSome := by
  have hmem (summary : Summary) : summary ∈ Folder.summaries folder
      ↔ ∃ d ∈ folder.filterMap Folder.documentOf?, d.summary = summary := by
    rw [Folder.summaries, (Summary.perm_newestFirst _).mem_iff, List.mem_map]
  constructor
  · rintro ⟨summary, hsummary, rfl⟩
    obtain ⟨d, hd, rfl⟩ := (hmem summary).mp hsummary
    obtain ⟨entry, hentry, hd⟩ := List.mem_filterMap.mp hd
    obtain ⟨id, text, rfl, -, hdecode⟩ := Folder.documentOf_eq_some.mp hd
    have hid : d.summary.id = id := Folder.id_of_decode hdecode
    rw [hid]
    exact ⟨text, hentry, by rw [hdecode]; rfl⟩
  · rintro ⟨text, hentry, hdecode⟩
    obtain ⟨d, hd⟩ := Option.isSome_iff_exists.mp hdecode
    have hdocument := Folder.documentOf_eq_some.mpr ⟨id, text, rfl, h, hd⟩
    exact ⟨d.summary, (hmem _).mpr ⟨d, List.mem_filterMap.mpr ⟨_, hentry, hdocument⟩, rfl⟩,
      Folder.id_of_decode hd⟩

lemma item_eq (h : isValid id) (service : Service σ) : ∃ segments,
    service.collection = { service.base with segments := segments ++ [""] }
      ∧ service.item id = { service.base with segments := segments ++ [id] } := by
  obtain ⟨segments, hcollection⟩ := Address.segments_collectionOf service.base
  refine ⟨segments, hcollection, ?_⟩
  rw [Service.item, Address.join_id h, Service.collection, hcollection]
  simp

lemma item_text (h : isValid id) (service : Service σ) :
    (service.item id).text = service.collection.text ++ id := by
  obtain ⟨segments, hcollection, hitem⟩ := item_eq h service
  rw [hitem, hcollection, Address.text, Address.text, Address.path_append, Address.path_append]
  simp [String.append_assoc]

/-- Every accepted id is safe. -/
theorem safe_of_isValid (root : String) (service : Service σ) (h : isValid id) :
    Safe root service id := by
  have hdocument := parent_fileName (p := Path.place root) (isName_documentFile h)
  have hdraft := parent_fileName (p := Path.place root) (isName_draftFile h)
  obtain ⟨hextension, hstem⟩ := FileName.readings_documentFile (isValid_iff.mp h).1.1
  have hname : (documentPlace root id).fileName? = some (documentFile id) := by
    rw [documentPlace_eq h]
    exact hdocument.2
  refine {
    document_parent := by rw [documentPlace_eq h]; exact hdocument.1
    document_name := by rw [hname, documentFile, String.append_assoc]; rfl
    draft_parent := by rw [draftPlace_eq h]; exact hdraft.1
    draft_name := ?_
    draft_eq := by rw [draftPlace_eq h, Path.place_join (isName_draftFile h)]
    extension := by rw [Path.Place.extension?, hname]; exact hextension
    stem := by rw [Path.Place.stem?, hname]; exact congrArg some hstem
    listed := listed_iff h
    document_injective := fun other hother heq => ?_
    draft_ne_document := fun other hother => ⟨fun heq => ?_, fun heq => ?_⟩
    item_eq := item_eq h service
    item_text := item_text h service
    item_injective := fun other hother heq => ?_ }
  · rw [draftPlace_eq h, hdraft.2, draftFile, documentFile, String.append_assoc,
      String.append_assoc]
    rfl
  · rw [documentPlace_eq h, documentPlace_eq hother] at heq
    simp only [Path.Place.mk.injEq, List.append_cancel_left_eq, List.cons.injEq] at heq
    exact documentFile_injective heq.2.1
  · rw [documentPlace_eq h, draftPlace_eq hother] at heq
    simp only [Path.Place.mk.injEq, List.append_cancel_left_eq, List.cons.injEq] at heq
    exact draftFile_ne_documentFile other id heq.2.1
  · rw [draftPlace_eq h, documentPlace_eq hother] at heq
    simp only [Path.Place.mk.injEq, List.append_cancel_left_eq, List.cons.injEq] at heq
    exact draftFile_ne_documentFile id other heq.2.1.symm
  · have htext := congrArg Address.text heq
    rw [item_text h, item_text hother, ← String.toList_inj, String.toList_append,
      String.toList_append, List.append_cancel_left_eq] at htext
    exact String.toList_inj.mp htext

/-- A service that has nothing. -/
def emptyService : Service Unit where
  base := ⟨"http", some "localhost", ["mockups"]⟩
  send _ := pure (.answered 404 "")

/-- An id with points in it and at its end. -/
theorem safe_pointed : isValid "a..json.tmp-." ∧ Safe "../work/" emptyService "a..json.tmp-." :=
  ⟨by decide, safe_of_isValid _ _ (by decide)⟩

example : (emptyService.item "a..b").text = "http://localhost/mockups/project/a..b" := by
  decide +kernel

end Places

end Id

end MockupStudio
