/-
The names of the files of a directory of documents.

* `FileName.splitLast_eq_some`: a name is split at its last point;
* `FileName.stem_eq_some_iff`: the files with the extension of documents are
  those named as the files of documents are;
* `documentFile_injective`, `draftFile_ne_documentFile`: different documents have
  different files, and no file in which one is prepared is the file of one.
-/
import MockupStudio.Store.Directory
import Mathlib

namespace MockupStudio

namespace FileName

variable {name stem rest : List Char}

lemma splitLast_append (h : '.' ∉ rest) : splitLast (stem ++ '.' :: rest) = some (stem, rest) := by
  have hreverse : (stem ++ '.' :: rest).reverse = rest.reverse ++ '.' :: stem.reverse := by simp
  have hafter : (rest.reverse ++ '.' :: stem.reverse).takeWhile (· ≠ '.') = rest.reverse := by
    rw [List.takeWhile_append_of_pos, List.takeWhile_cons_of_neg, List.append_nil]
    · simp
    · intro c hc
      simpa using fun heq : c = '.' => h (heq ▸ List.mem_reverse.mp hc)
  rw [splitLast, hreverse, hafter]
  simp

lemma splitLast_of_notMem (h : '.' ∉ name) : splitLast name = none := by
  have hafter : name.reverse.takeWhile (· ≠ '.') = name.reverse := by
    rw [List.takeWhile_eq_self_iff]
    intro c hc
    simpa using fun heq : c = '.' => h (heq ▸ List.mem_reverse.mp hc)
  rw [splitLast, hafter, List.drop_length]

/-- A name is split at its last point. -/
lemma splitLast_eq_some : splitLast name = some (stem, rest)
    ↔ name = stem ++ '.' :: rest ∧ '.' ∉ rest := by
  constructor
  · intro h
    by_cases hmem : '.' ∈ name
    · -- the last point of a name is the first one of its reverse
      obtain ⟨after, before, hsplit, hafter⟩ :=
        List.eq_append_cons_of_mem (List.mem_reverse.mpr hmem)
      have hname : name = before.reverse ++ '.' :: after.reverse := by
        rw [← List.reverse_reverse name, hsplit]
        simp
      have hnotMem : '.' ∉ after.reverse := fun hc => hafter (List.mem_reverse.mp hc)
      rw [hname, splitLast_append hnotMem] at h
      cases h
      exact ⟨hname, hnotMem⟩
    · rw [splitLast_of_notMem hmem] at h
      cases h
  · rintro ⟨rfl, h⟩
    exact splitLast_append h

/-- The files with the extension of documents are those named as the files of
documents are. -/
theorem stem_eq_some_iff {name id : String} : stem? documentExtension name = some id
    ↔ name = documentFile id ∧ id ≠ "" := by
  have hfile : (documentFile id).toList = id.toList ++ '.' :: documentExtension.toList := by
    simp [documentFile]
  have hpoint : '.' ∉ documentExtension.toList := by decide
  have hempty : id ≠ "" ↔ id.toList ≠ [] := by simp
  constructor
  · intro h
    rw [stem?] at h
    split at h
    · next stem rest hsplit =>
      obtain ⟨hname, -⟩ := splitLast_eq_some.mp hsplit
      split at h
      · next hrest =>
        cases h
        simp only [Bool.and_eq_true, Bool.not_eq_true', List.isEmpty_eq_false_iff,
          decide_eq_true_eq] at hrest
        refine ⟨String.toList_inj.mp ?_, ?_⟩
        · rw [hname, hfile, String.toList_ofList, hrest.2]
        · rw [hempty, String.toList_ofList]
          exact hrest.1
      · cases h
    · cases h
  · rintro ⟨rfl, hid⟩
    rw [stem?, hfile, splitLast_append hpoint]
    have hstem := hempty.mp hid
    simp [hstem]

end FileName

/-- Different documents have different files. -/
theorem documentFile_injective {id id' : String} (h : documentFile id = documentFile id') :
    id = id' := by
  have hlist := congrArg String.toList h
  simp only [documentFile, String.toList_append, List.append_cancel_right_eq] at hlist
  exact String.toList_inj.mp hlist

/-- No file in which a document is prepared is the file of a document. -/
theorem draftFile_ne_documentFile (id id' : String) : draftFile id ≠ documentFile id' := by
  intro h
  have hlast := congrArg (fun name => name.toList.getLast?) h
  simp [draftFile, documentFile, documentExtension] at hlast

end MockupStudio
