/-
Listings of documents.

* `Summary.Precedes`: newer, or of the same time and with the smaller id;
* `Summary.pairwise_newestFirst`: where ids occur once, every summary of a
  listing precedes those after it;
* `Summary.newestFirst_congr`: then the listing does not depend on the order in
  which the documents were found.
-/
import MockupStudio.Document.Basic
import Mathlib

namespace MockupStudio

/-- Of two points in time one comes first, unless they are the same. -/
lemma Timestamp.before_or_eq_or_before (a b : Timestamp) : a.Before b ∨ a = b ∨ b.Before a := by
  obtain ⟨s, n⟩ := a
  obtain ⟨s', n'⟩ := b
  simp only [Timestamp.Before, Timestamp.mk.injEq]
  omega

namespace Summary

/-- Whether a summary stands before another in a listing: it is newer, or of
the same time and its id is the smaller one. -/
def Precedes (a b : Summary) : Prop :=
  b.modifiedAt.Before a.modifiedAt ∨ a.modifiedAt = b.modifiedAt ∧ a.id < b.id

lemma le_iff {a b : Summary} : le a b
    ↔ b.modifiedAt.Before a.modifiedAt ∨ a.modifiedAt = b.modifiedAt ∧ a.id ≤ b.id := by
  simp [le]

lemma le_trans {a b c : Summary} (hab : le a b) (hbc : le b c) : le a c := by
  rw [le_iff] at *
  rcases hab with hab | ⟨hab, hid⟩ <;> rcases hbc with hbc | ⟨hbc, hid'⟩
  · exact .inl (hbc.trans hab)
  · exact .inl (hbc ▸ hab)
  · exact .inl (hab ▸ hbc)
  · exact .inr ⟨hab.trans hbc, hid.trans hid'⟩

lemma le_total (a b : Summary) : le a b || le b a := by
  rw [Bool.or_eq_true, le_iff, le_iff]
  rcases Timestamp.before_or_eq_or_before a.modifiedAt b.modifiedAt with h | h | h
  · exact .inr (.inl h)
  · rcases String.le_total a.id b.id with hid | hid
    · exact .inl (.inr ⟨h, hid⟩)
    · exact .inr (.inr ⟨h.symm, hid⟩)
  · exact .inl (.inl h)

/-- Summaries that stand no later than one another have the same id. -/
lemma id_eq_of_le_le {a b : Summary} (hab : le a b) (hba : le b a) : a.id = b.id := by
  rw [le_iff] at *
  rcases hab with hab | ⟨hab, hid⟩ <;> rcases hba with hba | ⟨hba, hid'⟩
  · exact absurd (hab.trans hba) (Timestamp.Before.irrefl _)
  · exact absurd (hba ▸ hab) (Timestamp.Before.irrefl _)
  · exact absurd (hab ▸ hba) (Timestamp.Before.irrefl _)
  · exact String.le_antisymm hid hid'

lemma precedes_of_le {a b : Summary} (h : le a b) (hid : a.id ≠ b.id) : a.Precedes b := by
  rcases le_iff.mp h with h | ⟨h, hle⟩
  · exact .inl h
  · exact .inr ⟨h, lt_of_le_of_ne hle hid⟩

lemma perm_newestFirst (summaries : List Summary) : (newestFirst summaries).Perm summaries :=
  List.mergeSort_perm summaries le

lemma sorted_newestFirst (summaries : List Summary) :
    (newestFirst summaries).Pairwise fun a b => le a b :=
  List.pairwise_mergeSort (fun a b c => @le_trans a b c) le_total summaries

/-- Where ids occur once, every summary of a listing precedes those after it. -/
theorem pairwise_newestFirst {summaries : List Summary} (h : (summaries.map id).Nodup) :
    (newestFirst summaries).Pairwise Precedes := by
  have hids : ((newestFirst summaries).map id).Nodup :=
    ((perm_newestFirst summaries).map id).nodup_iff.mpr h
  exact (sorted_newestFirst summaries).imp₂ (fun a b => precedes_of_le)
    (List.pairwise_map.mp hids)

/-- Where ids occur once, a listing does not depend on the order in which the
summaries are given. -/
theorem newestFirst_congr {summaries summaries' : List Summary} (h : (summaries.map id).Nodup)
    (hperm : summaries.Perm summaries') : newestFirst summaries = newestFirst summaries' := by
  refine List.Perm.eq_of_pairwise ?_ (sorted_newestFirst _) (sorted_newestFirst _)
    ((perm_newestFirst _).trans (hperm.trans (perm_newestFirst _).symm))
  intro a b ha hb hab hba
  -- summaries of one id are one summary, since the list has each id once
  exact List.inj_on_of_nodup_map h ((perm_newestFirst _).mem_iff.mp ha)
    (hperm.mem_iff.mpr ((perm_newestFirst _).mem_iff.mp hb)) (id_eq_of_le_le hab hba)

end Summary

end MockupStudio
