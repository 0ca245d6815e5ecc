/-
Keys that are bound once.

* `Bindings.keys_insert`: binding a key adds it unless it is there already, so
  no key is bound twice in what `ofList` builds
  (`Bindings.nodup_keys_ofList`);
* `Bindings.get?_insertAll`: of bindings with each key once, the added ones
  count before those that were there;
* `Bindings.get?_filter`: looking a key up among the bindings whose keys pass a
  test; `Bindings.get?_erase`: after a key is removed, only that one is not found;
* `Bindings.mem_keys_iff`: the bound keys are those that are found;
* `Bindings.mem_iff_get?_eq`: where no key is bound twice, a binding is there if
  its key has its value.
-/
import MockupStudio.Bindings
import Mathlib.Data.List.Nodup

namespace MockupStudio.Bindings

variable {α : Type} {bs more : Bindings α} {key k : String} {value : α}

/-- Binding a key adds it unless it is there already. -/
lemma keys_insert : keys (insert key value bs)
    = if key ∈ keys bs then keys bs else keys bs ++ [key] := by
  induction bs with
  | nil => simp [insert, keys]
  | cons b rest ih =>
    obtain ⟨l, a⟩ := b
    by_cases hl : l = key
    · subst hl
      simp [insert, keys]
    · have hcons (bs : Bindings α) : keys ((l, a) :: bs) = l :: keys bs := rfl
      have hmem : key ∈ l :: keys rest ↔ key ∈ keys rest := by simp [Ne.symm hl]
      rw [insert, if_neg hl, hcons, hcons, ih]
      by_cases hkey : key ∈ keys rest <;> simp [hkey, hmem]

lemma nodup_keys_insert (h : (keys bs).Nodup) : (keys (insert key value bs)).Nodup := by
  rw [keys_insert]
  split
  · exact h
  · next hkey =>
    rw [← List.concat_eq_append]
    exact h.concat hkey

lemma nodup_keys_insertAll (h : (keys bs).Nodup) : (keys (insertAll bs more)).Nodup := by
  induction more generalizing bs with
  | nil => exact h
  | cons b more ih => exact ih (nodup_keys_insert h)

/-- Bindings made of pairs bind no key twice. -/
theorem nodup_keys_ofList (pairs : List (String × α)) : (keys (ofList pairs)).Nodup :=
  nodup_keys_insertAll List.nodup_nil

lemma get?_eq_none (h : key ∉ keys bs) : get? key bs = none := by
  induction bs with
  | nil => rfl
  | cons b rest ih =>
    obtain ⟨l, a⟩ := b
    simp only [keys, List.map_cons, List.mem_cons, not_or] at h
    rw [get?, if_neg (Ne.symm h.1), ih h.2]

/-- The bound keys are those that are found. -/
lemma mem_keys_iff : key ∈ keys bs ↔ (get? key bs).isSome := by
  rw [← contains_eq_isSome]
  induction bs with
  | nil => simp [keys, contains]
  | cons b rest ih =>
    obtain ⟨l, a⟩ := b
    rw [contains, Bool.or_eq_true, decide_eq_true_eq, ← ih]
    simp [keys, eq_comm]

/-- Where each key is added once, added bindings count before those that were
there. -/
theorem get?_insertAll (h : (keys more).Nodup) :
    get? key (insertAll bs more) = (get? key more).or (get? key bs) := by
  induction more generalizing bs with
  | nil => rfl
  | cons b more ih =>
    obtain ⟨l, a⟩ := b
    simp only [keys, List.map_cons, List.nodup_cons] at h
    have hrest : get? key (insertAll bs ((l, a) :: more))
        = (get? key more).or (if l = key then some a else get? key bs) := by
      rw [← get?_insert]
      exact ih h.2
    rw [hrest, get?]
    split
    · next hl =>
      rw [get?_eq_none (hl ▸ h.1)]
      rfl
    · rfl

/-- Added bindings leave the other keys alone. -/
lemma get?_insertAll_of_notMem (h : key ∉ keys more) :
    get? key (insertAll bs more) = get? key bs := by
  induction more generalizing bs with
  | nil => rfl
  | cons b more ih =>
    obtain ⟨l, a⟩ := b
    simp only [keys, List.map_cons, List.mem_cons, not_or] at h
    have hrest : get? key (insertAll bs ((l, a) :: more)) = get? key (insert l a bs) := ih h.2
    rw [hrest, get?_insert, if_neg (Ne.symm h.1)]

/-- A key that passes the test of a filter is found as before, others are not
found. -/
lemma get?_filter (test : String → Bool) :
    get? key (bs.filter fun b => test b.1) = if test key then get? key bs else none := by
  induction bs with
  | nil => simp
  | cons b rest ih =>
    obtain ⟨l, a⟩ := b
    by_cases hl : l = key
    · subst hl
      cases htest : test l with
      | true => simp [htest, get?]
      | false =>
        rw [List.filter_cons_of_neg (by simp [htest]), ih, htest]
        rfl
    · cases htest : test l <;> simp [htest, get?, hl, ih]

/-- After a key is removed it is not found, and every other key is found as
before. -/
lemma get?_erase : get? k (erase key bs) = if k = key then none else get? k bs := by
  rw [erase, get?_filter fun l => l ≠ key]
  by_cases h : k = key <;> simp [h]

/-- Removing a key that was just bound. -/
lemma erase_insert : erase key (insert key value bs) = erase key bs := by
  induction bs with
  | nil => simp [insert, erase]
  | cons b rest ih =>
    obtain ⟨l, a⟩ := b
    rw [erase] at ih ⊢
    by_cases hl : l = key <;> simp_all [insert, erase]

lemma nodup_keys_erase (h : (keys bs).Nodup) : (keys (erase key bs)).Nodup := by
  have hsub : (keys (erase key bs)).Sublist (keys bs) := List.filter_sublist.map _
  exact h.sublist hsub

lemma mem_of_get?_eq (h : get? key bs = some value) : (key, value) ∈ bs := by
  induction bs with
  | nil => exact absurd h (by simp)
  | cons b rest ih =>
    obtain ⟨l, a⟩ := b
    rw [get?] at h
    split at h
    · next hl =>
      cases hl
      cases h
      exact List.mem_cons_self
    · exact List.mem_cons_of_mem _ (ih h)

/-- Where no key is bound twice, a binding is there if its key has its value. -/
lemma mem_iff_get?_eq (h : (keys bs).Nodup) : (key, value) ∈ bs ↔ get? key bs = some value := by
  refine ⟨fun hmem => ?_, mem_of_get?_eq⟩
  induction bs with
  | nil => exact absurd hmem (by simp)
  | cons b rest ih =>
    obtain ⟨l, a⟩ := b
    simp only [keys, List.map_cons, List.nodup_cons] at h
    rcases List.mem_cons.mp hmem with heq | hmem
    · cases heq
      rw [get?, if_pos rfl]
    · have hne : l ≠ key := fun hl => h.1 (hl ▸ List.mem_map_of_mem hmem)
      rw [get?, if_neg hne, ih h.2 hmem]

/-- Looking a key up in a list of pairs. -/
lemma get?_eq_lookup : get? key bs = List.lookup key bs := by
  induction bs with
  | nil => rfl
  | cons b rest ih =>
    obtain ⟨l, a⟩ := b
    rw [get?, List.lookup_cons, ih]
    by_cases hl : l = key
    · simp [hl]
    · have hkey : (key == l) = false := beq_false_of_ne fun h => hl h.symm
      simp [hl, hkey]

end MockupStudio.Bindings
